import Scoreboard.Files.Path

/-!
# File trees

What stands under which path at one moment.

## Main definitions

- `FileTree` — files and folders by their places
- `FileTree.node?` — what a path leads to
- `FileTree.place`, `FileTree.remove` — a tree with something changed
-/

namespace Scoreboard

/-- What stands at a place. -/
inductive FileNode where
  /-- A file and its bytes. -/
  | file (bytes : List UInt8)
  | folder
  deriving DecidableEq

/-- Files and folders by their places. A place is the list of parts from the root. -/
structure FileTree where
  /-- Files and folders. The folders above them go without saying. -/
  nodes : List (List String × FileNode) := []
  /-- The place from which paths are seen that do not begin at the root. -/
  current : List String := []

namespace FileTree

/-- What stands at a place. -/
def nodeAt? (tree : FileTree) (place : List String) : Option FileNode :=
  match tree.nodes.find? fun node => node.1 = place with
  | some node => some node.2
  | none =>
    if place <+: tree.current || tree.nodes.any fun node => place <+: node.1 then some .folder
    else none

/-- The place that parts of a path lead to. Every part but the first is looked for in a folder. -/
def follow? (tree : FileTree) : List String → List String → Option (List String)
  | place, [] => some place
  | place, part :: parts =>
    if tree.nodeAt? place = some .folder then
      if part = "" || part = "." then tree.follow? place parts
      else if part = ".." then tree.follow? place.dropLast parts
      else tree.follow? (place ++ [part]) parts
    else none

/-- What a path leads to. The empty path leads nowhere. -/
def node? (tree : FileTree) (path : String) : Option FileNode := do
  if path.isEmpty then none
  let start := if FilePath.isAbsolute path then [] else tree.current
  tree.nodeAt? (← tree.follow? start (FilePath.parts path))

/-- The place of a path as written. -/
def placeOf (path : String) : List String :=
  (FilePath.parts path).filter fun part => !(part = "" || part = ".")

/-- The tree without what stands at a path and below it. -/
def remove (tree : FileTree) (path : String) : FileTree :=
  { tree with nodes := tree.nodes.filter fun node => !(placeOf path <+: node.1) }

/-- The tree with a file or a folder put at a path that begins at the root. -/
def place (tree : FileTree) (path : String) (node : FileNode) : FileTree :=
  { tree with nodes := (placeOf path, node) :: (tree.remove path).nodes }

end FileTree

end Scoreboard
