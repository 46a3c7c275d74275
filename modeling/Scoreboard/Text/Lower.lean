import Scoreboard.Text.Case

/-!
# Lower-casing a text

## Main definitions

- `Text.lower` — the lower-case form of a text
- `Text.lowerChars` — the same on characters, given what stands before them

## Design notes

One letter depends on its place: the capital sigma becomes the final sigma at the end of a word and
the plain one elsewhere. A word ends where a cased character stands before the sigma and none stands
after it, passing over the characters that are ignored for case. The characters already read are
kept in reverse, so that both sides are searched the same way.
-/

namespace Scoreboard.Text

/-- The first character that is not ignored for case has case. -/
def meetsCased (cs : List Char) : Bool :=
  match cs.dropWhile isCaseIgnorable with
  | [] => false
  | c :: _ => isCased c

/-- A sigma between `before`, nearest character first, and `after` ends its word. -/
def endsWord (before after : List Char) : Bool :=
  meetsCased before && !meetsCased after

/-- The lower-case form of characters that follow `before`, which is in reverse order. -/
def lowerChars (before : List Char) : List Char → List Char
  | [] => []
  | c :: cs =>
    let image :=
      if c.toNat = 0x3a3 then
        [if endsWord before cs then Char.ofNat 0x3c2 else Char.ofNat 0x3c3]
      else
        lowerChar c
    image ++ lowerChars (c :: before) cs

/-- The lower-case form of a text. -/
def lower (s : String) : String :=
  String.ofList (lowerChars [] s.toList)

end Scoreboard.Text
