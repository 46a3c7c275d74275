/-!
# Paths

A path is a text whose parts are separated by slashes. Empty parts and single dots stand for
nothing, a dot at the very front aside.

## Main definitions

- `FilePath.parts` — the parts of a path
- `FilePath.join` — a path seen from a folder
- `FilePath.folder` — the folder that holds a path
-/

namespace Scoreboard.FilePath

/-- The parts between the slashes; empty ones stay. -/
def splitSlashes : List Char → List (List Char)
  | [] => [[]]
  | c :: cs =>
    if c = '/' then [] :: splitSlashes cs
    else
      match splitSlashes cs with
      | [] => [[c]]
      | part :: parts => (c :: part) :: parts

/-- The path begins at the root. -/
def isAbsolute (path : String) : Bool :=
  path.toList.head? = some '/'

/-- The parts of a path; empty ones stay. -/
def parts (path : String) : List String :=
  (splitSlashes path.toList).map String.ofList

/-- A path seen from a folder; an absolute path stays as it is. -/
def join (folder path : String) : String :=
  if isAbsolute path || folder.isEmpty then path
  else if folder.toList.getLast? = some '/' then folder ++ path
  else folder ++ "/" ++ path

/-- A path, read from its end, without the slashes and single dots there that stand for nothing. -/
def trimEnd : List Char → List Char
  | '/' :: rest => trimEnd rest
  | '.' :: '/' :: rest => trimEnd rest
  | cs => cs

/-- The folder that holds a path, as it is written; the empty path where none is. -/
def folder (path : String) : String :=
  let above := (trimEnd path.toList.reverse).dropWhile (· ≠ '/')
  match trimEnd above with
  | [] => if above.isEmpty then "" else "/"
  | cs => String.ofList cs.reverse

end Scoreboard.FilePath
