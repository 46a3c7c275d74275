import Scoreboard.Codec.Event
import Scoreboard.Proofs.Json.Scalar
import Scoreboard.Proofs.Screen.Names

/-!
# Names as addresses

What is shown is told under the texts of the names, so a text has to tell which name it is of. It
does wherever no table has a slash in its name, whatever the rows and elements are called.

## Main definitions

- `ElementId.kind`, `ElementId.rest` — the two sides of the colon in the text of a name
- `ElementId.SlashFree` — the table that a name belongs to has no slash in its name
- `ElementId.Blurred` — two rows, or two cells of one column, whose table and row run together alike

## Main statements

- `Text.cut_unique`, `Text.lastCut_unique` — a text is cut at a mark in one way
- `ElementId.text_eq_text_iff` — which names print alike
- `Store.run_addresses` — what is shown is found under the text of a name

## Design notes

A column or a round prints as digits, so the last slash of a name that ends in one is always where
the number begins. Only the first slash of a row or a cell can be mistaken.
-/

namespace Scoreboard

namespace Text

variable {mark : Char} {front front' back back' : List Char}

/-- What stands before a mark is told by the text, if the mark is not in it. -/
theorem cut_unique (hfront : mark ∉ front) (hfront' : mark ∉ front')
    (h : front ++ mark :: back = front' ++ mark :: back') : front = front' ∧ back = back' := by
  induction front generalizing front' with
  | nil =>
    cases front' with
    | nil => exact ⟨rfl, (List.cons.inj h).2⟩
    | cons c cs => exact absurd (List.cons.inj h).1 fun hmark => hfront' (hmark ▸ .head cs)
  | cons c cs ih =>
    cases front' with
    | nil => exact absurd (List.cons.inj h).1.symm fun hmark => hfront (hmark ▸ .head cs)
    | cons d ds =>
      obtain ⟨rfl, hrest⟩ := List.cons.inj h
      have hcut := ih (List.not_mem_of_not_mem_cons hfront)
        (List.not_mem_of_not_mem_cons hfront') hrest
      exact ⟨congrArg _ hcut.1, hcut.2⟩

/-- What stands after a mark is told by the text, if the mark is not in it. -/
theorem lastCut_unique (hback : mark ∉ back) (hback' : mark ∉ back')
    (h : front ++ mark :: back = front' ++ mark :: back') : front = front' ∧ back = back' := by
  have hreverse := congrArg List.reverse h
  rw [List.reverse_append, List.reverse_append, List.reverse_cons, List.reverse_cons,
    List.append_assoc, List.append_assoc] at hreverse
  have hcut := cut_unique (fun hmem => hback (List.mem_reverse.1 hmem))
    (fun hmem => hback' (List.mem_reverse.1 hmem)) hreverse
  exact ⟨List.reverse_injective hcut.2, List.reverse_injective hcut.1⟩

theorem slash_notMem_repr (n : Nat) : '/' ∉ n.repr.toList := by
  intro hmem
  rw [Nat.toList_repr] at hmem
  exact absurd (Nat.isDigit_of_mem_toDigits (by decide) (by decide) hmem) (by decide)

theorem repr_injective {m n : Nat} (h : m.repr = n.repr) : m = n := by
  have hdigits : Nat.toDigits 10 m = Nat.toDigits 10 n := by
    rw [← Nat.toList_repr, ← Nat.toList_repr, h]
  have hread := natOfDigits?_toDigits m
  rw [hdigits, natOfDigits?_toDigits] at hread
  exact (Option.some.inj hread).symm

end Text

namespace ElementId

variable {a b : ElementId}

section

variable {front front' back back' : String}

theorem slash_unique (hfront : '/' ∉ front.toList) (hfront' : '/' ∉ front'.toList)
    (h : front ++ "/" ++ back = front' ++ "/" ++ back') : front = front' ∧ back = back' := by
  have hlists := congrArg String.toList h
  simp only [String.toList_append, List.append_assoc] at hlists
  have hcut := Text.cut_unique hfront hfront' hlists
  exact ⟨String.toList_injective hcut.1, String.toList_injective hcut.2⟩

theorem lastSlash_unique {m n : Nat} (h : front ++ "/" ++ m.repr = front' ++ "/" ++ n.repr) :
    front = front' ∧ m = n := by
  have hlists := congrArg String.toList h
  simp only [String.toList_append, List.append_assoc] at hlists
  have hcut := Text.lastCut_unique (Text.slash_notMem_repr m) (Text.slash_notMem_repr n) hlists
  exact ⟨String.toList_injective hcut.1, Text.repr_injective (String.toList_injective hcut.2)⟩

end

/-- What stands before the colon in the text of a name. -/
def kind : ElementId → String
  | row _ _ => "row"
  | cell _ _ _ => "cell"
  | header _ _ => "header"
  | group _ _ => "group"
  | element _ => "element"

/-- What stands after the colon in the text of a name. -/
def rest : ElementId → String
  | row table id => table ++ "/" ++ id
  | cell table id column => table ++ "/" ++ id ++ "/" ++ column.repr
  | header table column => table ++ "/" ++ column.repr
  | group table round => table ++ "/" ++ round.text
  | element id => id

theorem text_eq (id : ElementId) : id.text = id.kind ++ ":" ++ id.rest := by
  cases id <;> simp only [text, kind, rest, ← String.append_assoc] <;> rfl

theorem colon_notMem_kind (id : ElementId) : ':' ∉ id.kind.toList := by
  cases id <;> simp [kind]

/-- Names that print alike are of one kind, and print alike after the colon. -/
theorem text_eq_text : a.text = b.text ↔ a.kind = b.kind ∧ a.rest = b.rest := by
  rw [text_eq, text_eq]
  constructor
  · intro h
    have hlists := congrArg String.toList h
    simp only [String.toList_append, List.append_assoc] at hlists
    have hcut := Text.cut_unique (colon_notMem_kind a) (colon_notMem_kind b) hlists
    exact ⟨String.toList_injective hcut.1, String.toList_injective hcut.2⟩
  · rintro ⟨hkind, hrest⟩
    rw [hkind, hrest]

/-- Two rows, or two cells of one column, whose table and row run together alike. -/
inductive Blurred : ElementId → ElementId → Prop where
  | row {table id table' id' : String} (h : table ++ "/" ++ id = table' ++ "/" ++ id') :
      Blurred (.row table id) (.row table' id')
  | cell {table id table' id' : String} (h : table ++ "/" ++ id = table' ++ "/" ++ id')
      (column : Nat) : Blurred (.cell table id column) (.cell table' id' column)

/-- Other names than rows and cells print alike only if they are the same, and of rows and cells
    only the cut between the table and the row can differ. -/
theorem text_eq_text_iff : a.text = b.text ↔ a = b ∨ Blurred a b := by
  constructor
  · rw [text_eq_text]
    rintro ⟨hkind, hrest⟩
    cases a <;> cases b
    case row.row => exact .inr (.row hrest)
    case cell.cell =>
      obtain ⟨hrow, rfl⟩ := lastSlash_unique hrest
      exact .inr (.cell hrow _)
    case header.header =>
      obtain ⟨rfl, rfl⟩ := lastSlash_unique hrest
      exact .inl rfl
    case group.group =>
      obtain ⟨rfl, hround⟩ := lastSlash_unique hrest
      exact .inl (congrArg _ (congrArg RoundId.mk (UInt32.toNat_inj.1 hround)))
    case element.element => exact .inl (congrArg _ hrest)
    all_goals simp [kind] at hkind
  · rintro (rfl | ⟨hrow⟩ | ⟨hrow, column⟩)
    · rfl
    · exact text_eq_text.2 ⟨rfl, hrow⟩
    · exact text_eq_text.2 ⟨rfl, congrArg (fun front => front ++ "/" ++ column.repr) hrow⟩

/-- The table that a name belongs to has no slash in its name. -/
def SlashFree (id : ElementId) : Prop :=
  ∀ table ∈ id.table?, '/' ∉ table.toList

/-- Where no table has a slash in its name, no two names print alike. -/
theorem eq_of_text_eq_text (ha : a.SlashFree) (hb : b.SlashFree) (h : a.text = b.text) :
    a = b := by
  rcases text_eq_text_iff.1 h with rfl | ⟨hrow⟩ | ⟨hrow, column⟩
  · rfl
  all_goals
    obtain ⟨rfl, rfl⟩ := slash_unique (ha _ rfl) (hb _ rfl) hrow
    rfl

end ElementId

theorem Json.member?_of_mem {members : List (String × Json)} {name : String} {json : Json}
    (hnames : (members.map Prod.fst).Nodup) (hmem : (name, json) ∈ members) :
    (Json.object members).member? name = some json := by
  obtain ⟨front, back, rfl⟩ := List.append_of_mem hmem
  have hfront : ∀ member ∈ front, member.1 ≠ name := by
    rw [List.map_append, List.map_cons] at hnames
    rintro member hmember rfl
    exact (List.nodup_append.1 hnames).2.2 _ (List.mem_map_of_mem hmember) _ List.mem_cons_self rfl
  have hfind : (front ++ (name, json) :: back).find? (fun member => member.1 = name) =
      some (name, json) := by
    rw [List.find?_eq_some_iff_append]
    exact ⟨by simp, front, back, rfl, by simpa using hfront⟩
  show (List.find? _ _).map Prod.snd = _
  rw [hfind, Option.map_some]

namespace Page

variable {page page' : Page} {id : ElementId}

theorem Holds.exists_table {tags : List Tags} (h : page.Holds id tags) :
    ∀ table ∈ id.table?, ∃ other ∈ page.tables, other.id = table := by
  rintro table htable
  cases h with
  | group hmem => exact ⟨_, hmem, Option.some.inj htable⟩
  | header hmem => exact ⟨_, hmem, Option.some.inj htable⟩
  | row hmem => exact ⟨_, hmem, Option.some.inj htable⟩
  | cell hmem => exact ⟨_, hmem, Option.some.inj htable⟩
  | element => cases htable

theorem Holds.slashFree {tags : List Tags} (h : page.Holds id tags)
    (htables : ∀ table ∈ page.tables, '/' ∉ table.id.toList) : id.SlashFree := by
  intro name hname
  obtain ⟨table, htable, rfl⟩ := h.exists_table name hname
  exact htables table htable

/-- Names on a page of which no table has a slash in its name are told under distinct texts. -/
theorem nodup_map_text (selection : Selection) (collapse : Collapse)
    (htables : ∀ table ∈ page.tables, '/' ∉ table.id.toList) :
    ((page.visibility selection collapse).keys.map ElementId.text).Nodup := by
  have hfree : ∀ id ∈ (page.visibility selection collapse).keys, id.SlashFree := by
    intro id hid
    obtain ⟨⟨id, shown⟩, hentry, rfl⟩ := List.mem_map.1 hid
    obtain ⟨tags, hholds, -⟩ :=
      (mem_shown_iff selection collapse page id shown).1 (SortedMap.mem_of_mem_ofList hentry)
    exact hholds.slashFree htables
  refine List.Nodup.map_on (fun a ha b hb => ?_) (SortedMap.nodup_keys _)
  exact ElementId.eq_of_text_eq_text (hfree a ha) (hfree b hb)

/-- A page shows or hides every name that is on it. -/
theorem Holds.mem_keys {tags : List Tags} (h : page.Holds id tags) (selection : Selection)
    (collapse : Collapse) : id ∈ (page.visibility selection collapse).keys := by
  rw [SortedMap.mem_keys_iff]
  have hmem := (mem_shown_iff selection collapse page id _).2 ⟨tags, h, rfl⟩
  rcases LastEntry.exists_or (page.shown selection collapse) id with ⟨shown, hlast⟩ | hnone
  · exact ⟨shown, SortedMap.get?_ofList_of_lastEntry hlast⟩
  · exact absurd rfl (hnone _ hmem)

end Page

namespace Store

/-- Names whose tables have no slash in their names print apart, and whatever the names of the
    tables are, two names that print alike are two rows or two cells. So on a page with no slash in
    the names of its tables, whatever events come, what is shown is told with no text twice, and
    under the text of a name on the page stands whether that name is shown. -/
theorem run_addresses :
    (∀ a b : ElementId, a.SlashFree → b.SlashFree → a.text = b.text → a = b) ∧
      (∀ a b : ElementId, a ≠ b → a.text = b.text → ElementId.Blurred a b) ∧
      ∀ (store : Store) (events : List (Int × Event)) (sort : Option SortReport),
        (∀ table ∈ store.page.tables, '/' ∉ table.id.toList) →
          let render : Render := { (store.run events).render with sort }
          ∃ members, render.toJson.member? "visibility" = some (.object members) ∧
            (members.map Prod.fst).Nodup ∧
            ∀ id tags, store.page.Holds id tags →
              (Json.object members).member? id.text = some (.bool (render.isVisible id)) := by
  refine ⟨fun a b => ElementId.eq_of_text_eq_text, ?_, ?_⟩
  · intro a b hne h
    exact (ElementId.text_eq_text_iff.1 h).resolve_left hne
  · intro store events sort htables render
    have hrearranged := store.run_rearranged events
    have hnames : (render.visibility.keys.map ElementId.text).Nodup := by
      refine Page.nodup_map_text _ _ fun table' htable' => ?_
      obtain ⟨table, htable, hsame⟩ := hrearranged.exists_table htable'
      rw [hsame.id_eq]
      exact htables table htable
    rw [SortedMap.keys, List.map_map] at hnames
    have hmembers : ((render.visibility.entries.map fun entry =>
        (entry.1.text, Json.bool entry.2)).map Prod.fst).Nodup := by
      rw [List.map_map]
      exact hnames
    refine ⟨_, rfl, hmembers, fun id tags hholds => ?_⟩
    obtain ⟨shown, hshown⟩ :=
      SortedMap.mem_keys_iff.1 ((hrearranged.holds_iff.2 hholds).mem_keys _ _)
    have hvisible : render.isVisible id = shown := congrArg (·.getD true) hshown
    rw [hvisible]
    exact Json.member?_of_mem hmembers
      (List.mem_map.2 ⟨(id, shown), SortedMap.get?_eq_some_iff.1 hshown, rfl⟩)

/-- Where a table may have a slash in its name, two rows can print alike. -/
example : (ElementId.row "a/b" "c").text = (ElementId.row "a" "b/c").text := by
  decide

end Store

end Scoreboard
