import Mathlib.Data.List.Basic
import Scoreboard.Feed.Reading
import Scoreboard.Proofs.Json.Written

/-!
# The lines of a text

Lines without control characters that are written one under the other are the lines that are read.

## Main definitions

- `Feed.textOf` — lines one under the other
- `Feed.bytesOf` — the bytes of a text

## Main statements

- `Feed.lines_bytesOf_textOf` — the lines of a text are those it was made of
-/

namespace Scoreboard

/-- The bytes of a character that is no control character are none of these either. -/
theorem Text.le_of_mem_utf8EncodeChar {c : Char} (h : 32 ≤ c.toNat) {byte : UInt8}
    (hbyte : byte ∈ String.utf8EncodeChar c) : 32 ≤ byte.toNat := by
  have hval : c.val.toNat = c.toNat := rfl
  unfold String.utf8EncodeChar at hbyte
  dsimp only at hbyte
  rw [hval] at hbyte
  split at hbyte
  · rw [List.mem_singleton.1 hbyte, UInt8.toNat_ofNat']
    omega
  · -- A character of several bytes has none below 128.
    repeat' split at hbyte
    all_goals
      simp only [List.mem_cons, List.not_mem_nil, or_false] at hbyte
      rcases hbyte with rfl | rfl | rfl | rfl
      all_goals
        rw [UInt8.toNat_ofNat']
        omega

namespace Feed

/-- Lines one under the other, each with a line feed at its end. -/
def textOf (lines : List String) : String :=
  String.join (lines.map fun line => line ++ "\n")

/-- The bytes of a text. -/
def bytesOf (s : String) : List UInt8 :=
  s.toUTF8.data.toList

theorem bytesOf_eq_flatMap (s : String) : bytesOf s = s.toList.flatMap String.utf8EncodeChar := by
  show s.toByteArray.data.toList = _
  rw [← String.utf8Encode_toList]
  exact List.toList_data_toByteArray

theorem bytesOf_append (s t : String) : bytesOf (s ++ t) = bytesOf s ++ bytesOf t := by
  simp [bytesOf_eq_flatMap]

theorem splitLines_append {bytes : List UInt8} (h : 10 ∉ bytes) (before rest : List UInt8) :
    splitLines before (bytes ++ rest) = splitLines (bytes.reverse ++ before) rest := by
  induction bytes generalizing before with
  | nil => rfl
  | cons byte bytes ih =>
    obtain ⟨hbyte, hbytes⟩ := not_or.1 (mt List.mem_cons.2 h)
    rw [List.cons_append, splitLines, if_neg (Ne.symm hbyte), ih hbytes]
    simp

theorem splitLines_line {bytes : List UInt8} (h : ∀ byte ∈ bytes, 32 ≤ byte.toNat)
    (rest : List UInt8) :
    splitLines [] (bytes ++ 10 :: rest) =
      (bytes :: (splitLines [] rest).1, (splitLines [] rest).2) := by
  have hfeed : 10 ∉ bytes := fun hmem => absurd (h 10 hmem) (by decide)
  have hreturn : bytes.reverse.head? ≠ some 13 := by
    intro hhead
    have hmem := List.mem_reverse.1 (List.mem_of_mem_head? hhead)
    exact absurd (h 13 hmem) (by decide)
  rw [splitLines_append hfeed, List.append_nil, splitLines, if_pos rfl, if_neg hreturn,
    List.reverse_reverse]

theorem fromUTF8?_bytesOf (s : String) :
    String.fromUTF8? (ByteArray.mk (bytesOf s).toArray) = some s := by
  have hbytes : ByteArray.mk (bytesOf s).toArray = s.toByteArray := rfl
  rw [hbytes]
  exact dif_pos s.isValidUTF8

/-- The lines of a text are those it was made of. -/
theorem lines_bytesOf_textOf {lines : List String}
    (h : ∀ line ∈ lines, Json.Visible line.toList) :
    Feed.lines (bytesOf (textOf lines)) = lines.map some := by
  have hsplit : splitLines [] (bytesOf (textOf lines)) = (lines.map bytesOf, []) := by
    induction lines with
    | nil => rfl
    | cons line rest ih =>
      obtain ⟨hline, hrest⟩ := List.forall_mem_cons.1 h
      have hbytes : ∀ byte ∈ bytesOf line, 32 ≤ byte.toNat := by
        intro byte hbyte
        rw [bytesOf_eq_flatMap] at hbyte
        obtain ⟨c, hc, hmem⟩ := List.mem_flatMap.1 hbyte
        exact Text.le_of_mem_utf8EncodeChar (hline c hc) hmem
      have htext :
          bytesOf (textOf (line :: rest)) = bytesOf line ++ 10 :: bytesOf (textOf rest) := by
        unfold textOf
        rw [List.map_cons, String.join_cons, bytesOf_append, bytesOf_append, List.append_assoc]
        rfl
      rw [htext, splitLines_line hbytes, ih hrest, List.map_cons]
  unfold Feed.lines
  rw [hsplit]
  simp [fromUTF8?_bytesOf]

end Feed

end Scoreboard
