import Mathlib.Data.List.Basic
import Scoreboard.Proofs.Json.Canonical
import Scoreboard.Proofs.Json.Scalar

/-!
# Values as they are written

The reader undoes the printer on canonical values. Their texts fit into one line.

## Main definitions

- `Json.ReadsBack` — the text of a value is read as the value
- `Json.Visible` — characters that can be part of a line

## Main statements

- `Json.Canonical.readsBack` — a canonical value is read from its text, whatever follows
- `Json.Canonical.visible_print` — the text of a canonical value has no control characters
-/

namespace Scoreboard.Json

/-- The text begins with neither a blank nor the end of a list. -/
def Begins (cs : List Char) : Prop :=
  ∃ c rest, cs = c :: rest ∧ isSpace c = false ∧ c ≠ ']'

/-- The text of a value is read as the value, and what follows is left. -/
structure ReadsBack (reader : List Char → Except Problem (Parsed Json)) (json : Json) : Prop where
  begins : Begins json.print.toList
  reads : ∀ rest, Ends rest → reader (json.print.toList ++ rest) = .ok (json, rest)

theorem skipSpace_cons {c : Char} (h : isSpace c = false) (cs : List Char) :
    skipSpace (c :: cs) = c :: cs := by
  simp [skipSpace, h]

/-- Parts with commas between them. -/
def separated : List (List Char) → List Char
  | [] => []
  | part :: parts => part ++ parts.flatMap fun part => ',' :: part

theorem toList_intercalate_comma (parts : List String) :
    (",".intercalate parts).toList = separated (parts.map String.toList) := by
  rw [String.toList_intercalate]
  cases parts with
  | nil => rfl
  | cons part parts =>
    show List.intercalate [','] _ = _
    induction parts generalizing part with
    | nil => simp [separated]
    | cons other parts ih =>
      rw [List.map_cons, List.map_cons, List.intercalate_cons_cons, ← List.map_cons, ih other]
      simp [separated]

/-- The characters of a member of an object. -/
def memberText (member : String × Json) : List Char :=
  '"' :: (member.1.toList.flatMap escaped ++ '"' :: ':' :: member.2.print.toList)

theorem toList_printText (s : String) :
    (printText s).toList = '"' :: (s.toList.flatMap escaped ++ ['"']) :=
  String.toList_ofList

theorem toList_print_array (items : List Json) :
    (Json.array items).print.toList =
      '[' :: (separated (items.map fun item => item.print.toList) ++ [']']) := by
  have hitems : printItems items = items.map print := by
    induction items with
    | nil => rfl
    | cons item items ih => rw [printItems, ih, List.map_cons]
  rw [print, String.toList_append, String.toList_append, toList_intercalate_comma, hitems,
    List.map_map]
  rfl

theorem toList_print_object (members : List (String × Json)) :
    (Json.object members).print.toList =
      '\x7b' :: (separated (members.map memberText) ++ ['\x7d']) := by
  have hmembers : (printMembers members).map String.toList = members.map memberText := by
    induction members with
    | nil => rfl
    | cons member members ih =>
      rw [printMembers, List.map_cons, List.map_cons, ih, memberText]
      simp [toList_printText]
  rw [print, String.toList_append, String.toList_append, toList_intercalate_comma, hmembers]
  rfl

theorem length_le_separated (parts : List (List Char)) :
    parts.length ≤ (separated parts).length + 1 := by
  cases parts with
  | nil => exact Nat.zero_le 1
  | cons part parts =>
    have hparts : parts.length ≤ (parts.flatMap fun part => ',' :: part).length := by
      induction parts with
      | nil => exact Nat.le_refl 0
      | cons other parts ih =>
        rw [List.flatMap_cons, List.length_append, List.length_cons, List.length_cons]
        omega
    rw [separated, List.length_append, List.length_cons]
    omega

theorem ends_flatMap {α : Type} (f : α → List Char) (xs : List α) {c : Char}
    (h : c = ',' ∨ c = ']' ∨ c = '\x7d') (rest : List Char) :
    Ends ((xs.flatMap fun x => ',' :: f x) ++ c :: rest) := by
  cases xs with
  | nil => exact ends_cons h rest
  | cons x xs => exact ends_cons (.inl rfl) _

section

variable {reader : List Char → Except Problem (Parsed Json)} {steps : Nat} (rest : List Char)

theorem nextItem_first {cs : List Char} (h : Begins cs) :
    nextItem true (cs ++ rest) = .ok (true, cs ++ rest) := by
  obtain ⟨c, cs, rfl, hspace, hend⟩ := h
  rw [List.cons_append, nextItem, skipSpace_cons hspace]
  simp [hend]

theorem nextItem_comma {cs : List Char} (h : Begins cs) :
    nextItem false (',' :: (cs ++ rest)) = .ok (true, cs ++ rest) := by
  obtain ⟨c, cs, rfl, hspace, hend⟩ := h
  rw [List.cons_append, nextItem, skipSpace_cons rfl]
  simp [skipSpace_cons hspace, hend]

theorem readItems_end (before : List Json) :
    readItems reader (steps + 1) before (']' :: rest) = .ok (before.reverse, rest) :=
  rfl

theorem readItems_item {before : List Json} {cs cs' rest : List Char} {value : Json}
    (hnext : nextItem before.isEmpty cs = .ok (true, cs'))
    (hvalue : reader cs' = .ok (value, rest)) :
    readItems reader (steps + 1) before cs = readItems reader steps (value :: before) rest := by
  rw [readItems, hnext]
  simp [bind, Except.bind, hvalue]

theorem readItems_flatMap {items : List Json} (h : ∀ item ∈ items, ReadsBack reader item)
    (hsteps : items.length < steps) {before : List Json} (hbefore : before ≠ []) :
    readItems reader steps before
        ((items.flatMap fun item => ',' :: item.print.toList) ++ ']' :: rest) =
      .ok (before.reverse ++ items, rest) := by
  induction items generalizing steps before with
  | nil =>
    obtain ⟨steps, rfl⟩ := Nat.exists_eq_succ_of_ne_zero (Nat.ne_of_gt hsteps)
    rw [List.append_nil]
    exact readItems_end rest before
  | cons item items ih =>
    obtain ⟨steps, rfl⟩ := Nat.exists_eq_succ_of_ne_zero (Nat.ne_of_gt (Nat.zero_lt_of_lt hsteps))
    obtain ⟨hitem, hitems⟩ := List.forall_mem_cons.1 h
    have hfirst : before.isEmpty = false := by simpa using hbefore
    rw [List.flatMap_cons, List.append_assoc, List.cons_append,
      readItems_item (hfirst ▸ nextItem_comma _ hitem.begins)
        (hitem.reads _ (ends_flatMap _ items (.inr (.inl rfl)) rest)),
      ih hitems (Nat.lt_of_succ_lt_succ hsteps) (List.cons_ne_nil item before)]
    simp

/-- The rest of a list is read up to its end. -/
theorem readItems_separated {items : List Json} (h : ∀ item ∈ items, ReadsBack reader item)
    (hsteps : items.length < steps) :
    readItems reader steps []
        (separated (items.map fun item => item.print.toList) ++ ']' :: rest) =
      .ok (items, rest) := by
  obtain ⟨steps, rfl⟩ := Nat.exists_eq_succ_of_ne_zero (Nat.ne_of_gt (Nat.zero_lt_of_lt hsteps))
  cases items with
  | nil => exact readItems_end rest []
  | cons item items =>
    obtain ⟨hitem, hitems⟩ := List.forall_mem_cons.1 h
    have hfirst (more : List Char) : nextItem ([] : List Json).isEmpty
        (item.print.toList ++ more) = .ok (true, item.print.toList ++ more) :=
      nextItem_first more hitem.begins
    rw [List.map_cons, separated, List.flatMap_map, List.append_assoc,
      readItems_item (hfirst _) (hitem.reads _ (ends_flatMap _ items (.inr (.inl rfl)) rest))]
    exact readItems_flatMap rest hitems (Nat.lt_of_succ_lt_succ hsteps) (List.cons_ne_nil item [])

theorem nextName_first (name : String) :
    nextName true ('"' :: (name.toList.flatMap escaped ++ '"' :: rest)) =
      .ok (some name, rest) := by
  rw [nextName, skipSpace_cons rfl]
  simp [readText_printed, bind, Except.bind, pure, Except.pure]

theorem nextName_comma (name : String) :
    nextName false (',' :: '"' :: (name.toList.flatMap escaped ++ '"' :: rest)) =
      .ok (some name, rest) := by
  rw [nextName, skipSpace_cons rfl]
  simp [skipSpace_cons (c := '"') rfl, readText_printed, bind, Except.bind, pure, Except.pure]

theorem readMembers_end (before : List (String × Json)) :
    readMembers reader (steps + 1) before ('\x7d' :: rest) = .ok (before.reverse, rest) :=
  rfl

theorem readMembers_member {before : List (String × Json)} {cs cs' rest : List Char}
    {name : String} {value : Json}
    (hnext : nextName before.isEmpty cs = .ok (some name, ':' :: cs'))
    (hvalue : reader cs' = .ok (value, rest)) :
    readMembers reader (steps + 1) before cs =
      readMembers reader steps ((name, value) :: before) rest := by
  have hcolon : readColon (':' :: cs') = .ok cs' := rfl
  rw [readMembers, hnext]
  simp [bind, Except.bind, hcolon, hvalue]

theorem memberText_append (member : String × Json) (more : List Char) :
    memberText member ++ more =
      '"' :: (member.1.toList.flatMap escaped ++
        '"' :: (':' :: (member.2.print.toList ++ more))) := by
  simp [memberText]

theorem readMembers_flatMap {members : List (String × Json)}
    (h : ∀ member ∈ members, ReadsBack reader member.2) (hsteps : members.length < steps)
    {before : List (String × Json)} (hbefore : before ≠ []) :
    readMembers reader steps before
        ((members.flatMap fun member => ',' :: memberText member) ++ '\x7d' :: rest) =
      .ok (before.reverse ++ members, rest) := by
  induction members generalizing steps before with
  | nil =>
    obtain ⟨steps, rfl⟩ := Nat.exists_eq_succ_of_ne_zero (Nat.ne_of_gt hsteps)
    rw [List.append_nil]
    exact readMembers_end rest before
  | cons member members ih =>
    obtain ⟨steps, rfl⟩ := Nat.exists_eq_succ_of_ne_zero (Nat.ne_of_gt (Nat.zero_lt_of_lt hsteps))
    obtain ⟨hmember, hmembers⟩ := List.forall_mem_cons.1 h
    have hfirst : before.isEmpty = false := by simpa using hbefore
    rw [List.flatMap_cons, List.append_assoc, List.cons_append, memberText_append,
      readMembers_member (hfirst ▸ nextName_comma _ member.1)
        (hmember.reads _ (ends_flatMap _ members (.inr (.inr rfl)) rest)),
      ih hmembers (Nat.lt_of_succ_lt_succ hsteps) (List.cons_ne_nil _ before)]
    simp

/-- The rest of an object is read up to its end. -/
theorem readMembers_separated {members : List (String × Json)}
    (h : ∀ member ∈ members, ReadsBack reader member.2) (hsteps : members.length < steps) :
    readMembers reader steps [] (separated (members.map memberText) ++ '\x7d' :: rest) =
      .ok (members, rest) := by
  obtain ⟨steps, rfl⟩ := Nat.exists_eq_succ_of_ne_zero (Nat.ne_of_gt (Nat.zero_lt_of_lt hsteps))
  cases members with
  | nil => exact readMembers_end rest []
  | cons member members =>
    obtain ⟨hmember, hmembers⟩ := List.forall_mem_cons.1 h
    have hfirst (more : List Char) : nextName ([] : List (String × Json)).isEmpty
        ('"' :: (member.1.toList.flatMap escaped ++ '"' :: more)) = .ok (some member.1, more) :=
      nextName_first more member.1
    rw [List.map_cons, separated, List.flatMap_map, List.append_assoc, memberText_append,
      readMembers_member (hfirst _)
        (hmember.reads _ (ends_flatMap _ members (.inr (.inr rfl)) rest))]
    exact readMembers_flatMap rest hmembers (Nat.lt_of_succ_lt_succ hsteps)
      (List.cons_ne_nil _ [])

end

theorem isSpace_of_isDigit {c : Char} (h : c.isDigit = true) : isSpace c = false := by
  rw [Bool.eq_false_iff]
  intro hspace
  simp only [isSpace, Bool.or_eq_true, decide_eq_true_eq] at hspace
  rcases hspace with ((rfl | rfl) | rfl) | rfl
  all_goals cases h

theorem readValue_of_isDigit (depth : Nat) {c : Char} (h : c.isDigit = true) (cs : List Char) :
    readValue depth (c :: cs) = readNumber false (c :: cs) := by
  unfold readValue
  rw [skipSpace_cons (isSpace_of_isDigit h)]
  dsimp only
  split
  case h_8 => rw [if_pos h]
  all_goals cases h

theorem readsBack_integer (depth : Nat) {n : Int} (least : -leastMagnitude ≤ n)
    (bound : n < UInt64.size) : ReadsBack (readValue depth) (.integer n) := by
  have hvalue : (Text.natOfDigits? (Nat.toDigits 10 n.natAbs)).getD 0 = n.natAbs := by
    rw [Text.natOfDigits?_toDigits, Option.getD_some]
  by_cases hneg : n < 0
  · have htext : (print (.integer n)).toList = '-' :: Nat.toDigits 10 n.natAbs := by
      rw [print, if_pos hneg, String.toList_append, Nat.toList_repr]
      rfl
    refine ⟨⟨'-', _, htext, rfl, by decide⟩, fun rest hends => ?_⟩
    have hread : readValue depth ('-' :: (Nat.toDigits 10 n.natAbs ++ rest)) =
        readNumber true (Nat.toDigits 10 n.natAbs ++ rest) := by
      unfold readValue
      rfl
    have hrange : (0 < n.natAbs && n.natAbs ≤ leastMagnitude) = true := by
      simp only [Bool.and_eq_true, decide_eq_true_eq]
      omega
    have hsame : -(n.natAbs : Int) = n := by omega
    rw [htext, List.cons_append, hread, readNumber_toDigits hends, wholeOf]
    simp only [hvalue, hrange, hsame, if_true]
  · have htext : (print (.integer n)).toList = Nat.toDigits 10 n.natAbs := by
      rw [print, if_neg hneg, Nat.toList_repr]
    have hdigits : ∀ c ∈ Nat.toDigits 10 n.natAbs, c.isDigit = true := fun c hc =>
      Nat.isDigit_of_mem_toDigits (by decide) (by decide) hc
    obtain ⟨c, cs, hcs⟩ :=
      List.exists_cons_of_ne_nil (Nat.toDigits_ne_nil (n := n.natAbs) (b := 10))
    have hc : c.isDigit = true := hdigits c (by rw [hcs]; exact List.mem_cons_self)
    refine ⟨⟨c, cs, htext.trans hcs, isSpace_of_isDigit hc, ?_⟩, fun rest hends => ?_⟩
    · rintro rfl
      cases hc
    · have hrange : n.natAbs < UInt64.size := by omega
      have hsame : (n.natAbs : Int) = n := by omega
      rw [htext, hcs, List.cons_append, readValue_of_isDigit depth hc, ← List.cons_append, ← hcs,
        readNumber_toDigits hends, wholeOf]
      simp only [hvalue, hrange, hsame, if_true, Bool.false_eq_true, if_false]

/-- The reader undoes the printer on canonical values. -/
theorem Canonical.readsBack {depth : Nat} {json : Json} (h : Canonical depth json) :
    ReadsBack (readValue depth) json := by
  induction h with
  | null depth =>
    refine ⟨⟨'n', _, rfl, rfl, by decide⟩, fun rest _ => ?_⟩
    show readValue depth ('n' :: 'u' :: 'l' :: 'l' :: rest) = _
    unfold readValue
    rfl
  | bool depth value =>
    cases value with
    | true =>
      refine ⟨⟨'t', _, rfl, rfl, by decide⟩, fun rest _ => ?_⟩
      show readValue depth ('t' :: 'r' :: 'u' :: 'e' :: rest) = _
      unfold readValue
      rfl
    | false =>
      refine ⟨⟨'f', _, rfl, rfl, by decide⟩, fun rest _ => ?_⟩
      show readValue depth ('f' :: 'a' :: 'l' :: 's' :: 'e' :: rest) = _
      unfold readValue
      rfl
  | integer depth least bound => exact readsBack_integer depth least bound
  | text depth value =>
    have htext : (print (.text value)).toList = _ := toList_printText value
    refine ⟨⟨'"', _, htext, rfl, by decide⟩, fun rest _ => ?_⟩
    rw [htext, List.cons_append, List.append_assoc, List.singleton_append]
    unfold readValue
    rw [skipSpace_cons rfl]
    simp [readText_printed, bind, Except.bind, pure, Except.pure]
  | @array depth items _ ih =>
    have htext := toList_print_array items
    refine ⟨⟨'[', _, htext, rfl, by decide⟩, fun rest _ => ?_⟩
    have hsteps := length_le_separated (items.map fun item => item.print.toList)
    rw [List.length_map] at hsteps
    rw [htext, List.cons_append, List.append_assoc, List.singleton_append]
    unfold readValue
    rw [skipSpace_cons rfl]
    dsimp only
    rw [readItems_separated rest ih]
    · rfl
    · simp only [List.length_append, List.length_cons]
      omega
  | @object depth members ascending _ ih =>
    have htext := toList_print_object members
    refine ⟨⟨'\x7b', _, htext, rfl, by decide⟩, fun rest _ => ?_⟩
    have hsteps := length_le_separated (members.map memberText)
    have hmembers : ofMembers members = .object members :=
      congrArg Json.object (SortedMap.entries_ofList_of_ascending ascending)
    rw [List.length_map] at hsteps
    rw [htext, List.cons_append, List.append_assoc, List.singleton_append]
    unfold readValue
    rw [skipSpace_cons rfl]
    dsimp only
    rw [readMembers_separated rest ih]
    · simp [bind, Except.bind, pure, Except.pure, hmembers]
    · simp only [List.length_append, List.length_cons]
      omega

/-- The text of a canonical value as a whole is read as the value. -/
theorem Canonical.read_print {json : Json} (h : Canonical depthLimit json) :
    read json.print = .ok json := by
  have hread := h.readsBack.reads [] ends_nil
  rw [List.append_nil] at hread
  unfold read
  rw [hread]
  rfl

/-- The characters are no control characters, so they can be part of a line. -/
def Visible (cs : List Char) : Prop :=
  ∀ c ∈ cs, 32 ≤ c.toNat

-- Through the characters of the list, not through all characters there are.
instance : DecidablePred Visible :=
  fun cs => List.decidableBAll (fun c : Char => 32 ≤ c.toNat) cs

theorem visible_escaped (c : Char) : Visible (escaped c) := by
  have hhex : ∀ n < 32, Visible
      (['\\', 'u', '0', '0'] ++ (if n < 16 then ['0'] else []) ++ Text.hexDigits n) := by
    decide
  unfold escaped
  iterate 7
    split
    · decide
  split
  · next hcontrol => exact hhex c.toNat hcontrol
  · next hplain => exact List.forall_mem_singleton.2 (Nat.le_of_not_lt hplain)

theorem visible_quoted (s : String) :
    Visible ('"' :: (s.toList.flatMap escaped ++ ['"'])) := by
  intro d hd
  simp only [List.mem_cons, List.mem_append, List.not_mem_nil, or_false] at hd
  rcases hd with rfl | hd | rfl
  · decide
  · obtain ⟨c, -, hc⟩ := List.mem_flatMap.1 hd
    exact visible_escaped c d hc
  · decide

theorem visible_separated {parts : List (List Char)} (h : ∀ part ∈ parts, Visible part) :
    Visible (separated parts) := by
  cases parts with
  | nil => nofun
  | cons part parts =>
    obtain ⟨hpart, hparts⟩ := List.forall_mem_cons.1 h
    intro c hc
    rcases List.mem_append.1 hc with hc | hc
    · exact hpart c hc
    · obtain ⟨other, hother, hc⟩ := List.mem_flatMap.1 hc
      rcases List.mem_cons.1 hc with rfl | hc
      · decide
      · exact hparts other hother c hc

theorem visible_enclosed {first last : Char} {cs : List Char} (hfirst : 32 ≤ first.toNat)
    (h : Visible cs) (hlast : 32 ≤ last.toNat) : Visible (first :: (cs ++ [last])) := by
  simp only [Visible, List.forall_mem_cons, List.forall_mem_append, List.not_mem_nil]
  exact ⟨hfirst, h, hlast, nofun⟩

theorem visible_print_object {members : List (String × Json)}
    (h : ∀ member ∈ members, Visible member.2.print.toList) :
    Visible (object members).print.toList := by
  rw [toList_print_object]
  refine visible_enclosed (by decide) (visible_separated ?_) (by decide)
  refine List.forall_mem_map.2 fun member hmember => ?_
  have htext : memberText member =
      '"' :: (member.1.toList.flatMap escaped ++ ['"']) ++ ':' :: member.2.print.toList := by
    simp [memberText]
  rw [htext]
  exact List.forall_mem_append.2 ⟨visible_quoted member.1,
    List.forall_mem_cons.2 ⟨by decide, h member hmember⟩⟩

/-- A canonical value is written on one line. -/
theorem Canonical.visible_print {depth : Nat} {json : Json} (h : Canonical depth json) :
    Visible json.print.toList := by
  induction h with
  | null depth =>
    show Visible "null".toList
    decide
  | bool depth value => cases value <;> decide
  | @integer depth n _ _ =>
    have hdigits : Visible (Nat.toDigits 10 n.natAbs) := by
      intro c hc
      have hdigit := Nat.isDigit_of_mem_toDigits (by decide) (by decide) hc
      exact Nat.le_trans (by decide) (Char.isDigit_iff_toNat.1 hdigit).1
    rw [print]
    split
    · rw [String.toList_append, Nat.toList_repr]
      exact List.forall_mem_cons.2 ⟨by decide, hdigits⟩
    · rwa [Nat.toList_repr]
  | text depth value =>
    have htext : (print (.text value)).toList = _ := toList_printText value
    rw [htext]
    exact visible_quoted value
  | @array depth items _ ih =>
    rw [toList_print_array]
    exact visible_enclosed (by decide) (visible_separated (List.forall_mem_map.2 ih)) (by decide)
  | @object depth members _ _ ih => exact visible_print_object ih

end Scoreboard.Json
