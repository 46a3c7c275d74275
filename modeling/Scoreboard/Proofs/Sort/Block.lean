import Mathlib.Data.List.Forall2
import Mathlib.Data.List.SplitBy
import Scoreboard.Proofs.Sort.Stable

/-!
# Rows that keep others apart

Rows without the compared cell, rows with a moment there and all other rows have no order among each
other. So a sort carries no row past one of another class: it sorts each block of neighbours of one
class on its own.

## Main definitions

- `blocksOf` — the maximal blocks of neighbours of one class
- `RowClass`, `Comparison.rowClass` — what the compared cell of a row is to a sort

## Main statements

- `exchangeSort_eq_flatMap_blocks` — a sort by exchanges sorts block by block
- `Comparison.sort_within_blocks` — what a sort does to each row and to each block

## Design notes

Block by block is read off the insertion pass: an element on its way up stops at the first one of
another class, whatever stands above that one. The exchanges themselves do not go block by block.
-/

namespace Scoreboard

universe u v

section

variable {α : Type u} {outOfOrder : α → α → Bool}

/-- An element on its way up gets no further than to one that it is in order with. -/
theorem moveUp_append {x : α} (near : List α) {far : List α}
    (h : ∀ y ∈ far.head?, outOfOrder y x = false) :
    (moveUp outOfOrder x (near ++ far)).1 = (moveUp outOfOrder x near).1 ++ far := by
  induction near with
  | nil =>
    cases far with
    | nil => rfl
    | cons y far =>
      have hyx : outOfOrder y x = false := h y rfl
      simp only [List.nil_append, moveUp, hyx, Bool.false_eq_true, if_false]
      rfl
  | cons z near ih =>
    simp only [List.cons_append, moveUp]
    split
    · rw [ih]
      rfl
    · rfl

theorem moveUpAll_append (near : List α) {far rest : List α}
    (h : ∀ y ∈ far.head?, ∀ x ∈ rest, outOfOrder y x = false) :
    (moveUpAll outOfOrder (near ++ far) rest).1 = (moveUpAll outOfOrder near rest).1 ++ far := by
  induction rest generalizing near with
  | nil => rfl
  | cons x rest ih =>
    have hx : ∀ y ∈ far.head?, outOfOrder y x = false :=
      fun y hy => h y hy x List.mem_cons_self
    have hrest : ∀ y ∈ far.head?, ∀ x ∈ rest, outOfOrder y x = false :=
      fun y hy z hz => h y hy z (List.mem_cons_of_mem x hz)
    simp only [moveUpAll]
    rw [moveUp_append near hx]
    exact ih (moveUp outOfOrder x near).1 hrest

theorem moveUpAll_after (above xs ys : List α) :
    (moveUpAll outOfOrder above (xs ++ ys)).1 =
      (moveUpAll outOfOrder (moveUpAll outOfOrder above xs).1 ys).1 := by
  induction xs generalizing above with
  | nil => rfl
  | cons x xs ih =>
    simp only [List.cons_append, moveUpAll]
    exact ih (moveUp outOfOrder x above).1

variable (asymm : Asymmetric outOfOrder)

include asymm

theorem perm_moveUpAll (xs : List α) : (moveUpAll outOfOrder [] xs).1.Perm xs := by
  have hperm := exchangeSort_perm asymm xs
  rw [exchangeSort_eq_insertionPass asymm] at hperm
  exact (List.reverse_perm _).symm.trans hperm

/-- Elements that are never out of order with those of the next block stop at its end. -/
theorem moveUpAll_flatten {blocks : List (List α)} {far : List α}
    (hapart : blocks.IsChain fun upper lower =>
      ∀ y ∈ upper, ∀ x ∈ lower, outOfOrder y x = false)
    (hnil : [] ∉ blocks)
    (hfar : ∀ y ∈ far.head?, ∀ block ∈ blocks.head?, ∀ x ∈ block, outOfOrder y x = false) :
    (moveUpAll outOfOrder far blocks.flatten).1.reverse =
      far.reverse ++ blocks.flatMap fun block => (insertionPass outOfOrder block).1 := by
  induction blocks generalizing far with
  | nil => simp [moveUpAll]
  | cons block blocks ih =>
    have hblock : (moveUpAll outOfOrder far block).1 =
        (moveUpAll outOfOrder [] block).1 ++ far :=
      moveUpAll_append [] fun y hy x hx => hfar y hy block rfl x hx
    have hperm := perm_moveUpAll asymm block
    have hne : block ≠ [] := fun h => hnil (h ▸ List.mem_cons_self)
    -- What the next block meets first is now the last element of this one.
    have hnext : ∀ y ∈ ((moveUpAll outOfOrder [] block).1 ++ far).head?,
        ∀ lower ∈ blocks.head?, ∀ x ∈ lower, outOfOrder y x = false := by
      intro y hy lower hlower x hx
      have hmoved : (moveUpAll outOfOrder [] block).1 ≠ [] := fun h => by
        rw [h] at hperm
        exact hne hperm.nil_eq.symm
      rw [List.head?_append_of_ne_nil _ hmoved] at hy
      have hmem : y ∈ block := hperm.mem_iff.1 (List.mem_of_mem_head? hy)
      exact hapart.rel_head? hlower y hmem x hx
    rw [List.flatten_cons, moveUpAll_after, hblock,
      ih hapart.tail (fun h => hnil (List.mem_cons_of_mem block h)) hnext, List.reverse_append,
      List.append_assoc, List.flatMap_cons]
    rfl

theorem exchangeSort_flatten {blocks : List (List α)}
    (hapart : blocks.IsChain fun upper lower =>
      ∀ y ∈ upper, ∀ x ∈ lower, outOfOrder y x = false)
    (hnil : [] ∉ blocks) :
    (exchangeSort outOfOrder asymm blocks.flatten).1 =
      blocks.flatMap fun block => (exchangeSort outOfOrder asymm block).1 := by
  have hflatten : (moveUpAll outOfOrder [] blocks.flatten).1.reverse =
      blocks.flatMap fun block => (insertionPass outOfOrder block).1 :=
    moveUpAll_flatten asymm hapart hnil (by simp)
  simp only [exchangeSort_eq_insertionPass asymm]
  exact hflatten

end

section

variable {α : Type u} {β : Type v} [DecidableEq β] (classOf : α → β)

/-- The maximal blocks of neighbours of one class, from top to bottom. -/
def blocksOf (xs : List α) : List (List α) :=
  xs.splitBy fun a b => classOf a = classOf b

variable {classOf} {xs : List α}

theorem class_eq_of_mem_blocksOf {block : List α} (h : block ∈ blocksOf classOf xs) {a b : α}
    (ha : a ∈ block) (hb : b ∈ block) : classOf a = classOf b := by
  have hchain : (block.map classOf).IsChain Eq := by
    rw [List.isChain_map]
    exact (List.isChain_of_mem_splitBy h).imp fun _ _ hab => of_decide_eq_true hab
  rw [List.isChain_eq_iff_eq_replicate] at hchain
  have hhead := hchain _ (List.head_mem_head? (List.ne_nil_of_mem (List.mem_map_of_mem ha)))
  have hall {c : α} (hc : c ∈ block) := List.mem_replicate.1 (hhead ▸ List.mem_map_of_mem hc)
  rw [(hall ha).2, (hall hb).2]

/-- Elements of two blocks next to each other are of different classes. -/
theorem class_ne_of_blocksOf (xs : List α) : (blocksOf classOf xs).IsChain fun upper lower =>
    ∀ y ∈ upper, ∀ x ∈ lower, classOf y ≠ classOf x := by
  refine List.IsChain.imp_of_mem_imp ?_ (List.isChain_getLast_head_splitBy _ xs)
  rintro upper lower hupper hlower ⟨hu, hl, hne⟩ y hy x hx heq
  rw [class_eq_of_mem_blocksOf hupper hy (List.getLast_mem hu),
    class_eq_of_mem_blocksOf hlower hx (List.head_mem hl)] at heq
  exact of_decide_eq_false hne heq

variable {outOfOrder : α → α → Bool} (asymm : Asymmetric outOfOrder)
  (hclass : ∀ a b, outOfOrder a b = true → classOf a = classOf b)

include hclass

/-- Where only elements of one class are ever out of order, a sort sorts block by block. -/
theorem exchangeSort_eq_flatMap_blocks (xs : List α) :
    (exchangeSort outOfOrder asymm xs).1 =
      (blocksOf classOf xs).flatMap fun block => (exchangeSort outOfOrder asymm block).1 := by
  have hapart : (blocksOf classOf xs).IsChain fun upper lower =>
      ∀ y ∈ upper, ∀ x ∈ lower, outOfOrder y x = false := by
    refine (class_ne_of_blocksOf xs).imp fun upper lower hne y hy x hx => ?_
    by_contra hout
    exact hne y hy x hx (hclass y x (by simpa using hout))
  have hsort := exchangeSort_flatten asymm hapart (List.nil_notMem_splitBy _ xs)
  rwa [blocksOf, List.flatten_splitBy] at hsort

/-- A sort leaves as many blocks, each of them sorted. -/
theorem blocksOf_exchangeSort (xs : List α) :
    blocksOf classOf (exchangeSort outOfOrder asymm xs).1 =
      (blocksOf classOf xs).map fun block => (exchangeSort outOfOrder asymm block).1 := by
  rw [exchangeSort_eq_flatMap_blocks asymm hclass, List.flatMap_def]
  have hsame {block : List α} (hblock : block ∈ blocksOf classOf xs) {a b : α}
      (ha : a ∈ (exchangeSort outOfOrder asymm block).1)
      (hb : b ∈ (exchangeSort outOfOrder asymm block).1) : classOf a = classOf b :=
    class_eq_of_mem_blocksOf hblock ((exchangeSort_perm asymm block).mem_iff.1 ha)
      ((exchangeSort_perm asymm block).mem_iff.1 hb)
  have hne {block : List α} (hblock : block ∈ blocksOf classOf xs) :
      (exchangeSort outOfOrder asymm block).1 ≠ [] := fun hnil => by
    have hperm := exchangeSort_perm asymm block
    rw [hnil] at hperm
    exact List.ne_nil_of_mem_splitBy hblock hperm.nil_eq.symm
  refine List.splitBy_flatten ?_ ?_ ?_
  · intro hnil
    obtain ⟨block, hblock, heq⟩ := List.mem_map.1 hnil
    exact hne hblock heq
  · intro sorted hsorted
    obtain ⟨block, hblock, rfl⟩ := List.mem_map.1 hsorted
    refine List.Pairwise.isChain (List.pairwise_of_forall_mem_list fun a ha b hb => ?_)
    exact decide_eq_true (hsame hblock ha hb)
  · rw [List.isChain_map]
    refine List.IsChain.imp_of_mem_imp ?_ (class_ne_of_blocksOf xs)
    intro upper lower hupper hlower hapart
    refine ⟨hne hupper, hne hlower, decide_eq_false ?_⟩
    exact hapart _ ((exchangeSort_perm asymm upper).mem_iff.1 (List.getLast_mem _)) _
      ((exchangeSort_perm asymm lower).mem_iff.1 (List.head_mem _))

end

/-- What the compared cell of a row is to a sort. -/
inductive RowClass where
  /-- The row does not have it. -/
  | missing
  /-- It shows a moment. -/
  | moment
  /-- It shows a number or plain text. -/
  | plain
  deriving DecidableEq

namespace Comparison

variable (comparison : Comparison)

/-- What the compared cell of a row is to a sort. -/
def rowClass (row : Row) : RowClass :=
  match comparison.kind? row with
  | none => .missing
  | some .moment => .moment
  | some _ => .plain

variable {comparison} {row : Row}

theorem kind?_of_moment (h : comparison.rowClass row = .moment) :
    comparison.kind? row = some .moment := by
  unfold rowClass at h
  split at h
  · cases h
  · assumption
  · cases h

/-- Rows that are out of order have the compared cell, and both or neither have a moment there. -/
theorem rowClass_of_outOfOrder {direction : Direction} {upper lower : Row}
    (h : comparison.outOfOrder direction upper lower = true) :
    comparison.rowClass upper ≠ .missing ∧
      comparison.rowClass upper = comparison.rowClass lower := by
  unfold outOfOrder order? at h
  unfold rowClass kind? value?
  cases hu : comparison.text? upper with
  | none => rw [hu] at h; cases h
  | some u =>
    cases hl : comparison.text? lower with
    | none => rw [hu, hl] at h; cases h
    | some l =>
      simp only [hu, hl, CellValue.compare?] at h
      simp only [Option.map_some]
      cases hru : CellValue.read comparison.year u with
      | stamp s =>
        cases hrl : CellValue.read comparison.year l with
        | stamp t => exact ⟨RowClass.noConfusion, rfl⟩
        | number y => rw [hru, hrl] at h; cases h
        | text m => rw [hru, hrl] at h; cases h
      | number x =>
        cases hrl : CellValue.read comparison.year l with
        | stamp t => rw [hru, hrl] at h; cases h
        | number y => exact ⟨RowClass.noConfusion, rfl⟩
        | text m => exact ⟨RowClass.noConfusion, rfl⟩
      | text k =>
        cases hrl : CellValue.read comparison.year l with
        | stamp t => rw [hru, hrl] at h; cases h
        | number y => exact ⟨RowClass.noConfusion, rfl⟩
        | text m => exact ⟨RowClass.noConfusion, rfl⟩

theorem sortIn_of_missing {rows : List Row} (h : ∀ row ∈ rows, comparison.rowClass row = .missing)
    (direction : Direction) : (comparison.sortIn direction rows).1 = rows := by
  have hsettled : Settled (comparison.outOfOrder direction) rows := by
    refine List.Pairwise.isChain (List.pairwise_of_forall_mem_list fun a ha b _ => ?_)
    by_contra hout
    exact (rowClass_of_outOfOrder (by simpa using hout)).1 (h a ha)
  unfold sortIn
  rw [exchangeSort_of_settled hsettled]

/-- A sort puts no row in the place of one of another class, and moves no row without the compared
    cell. Each block of neighbours of one class keeps its rows, and a block of moments comes out as
    its stable sort by time in the direction that is applied. -/
theorem sort_within_blocks (comparison : Comparison) (requested : Direction) (rows : List Row) :
    let sorted := comparison.sort requested rows
    List.Forall₂ (fun row row' => comparison.rowClass row' = comparison.rowClass row ∧
        (comparison.rowClass row = .missing → row' = row)) rows sorted.rows ∧
      List.Forall₂ (fun block block' => block'.Perm block ∧
          ((∀ row ∈ block, comparison.rowClass row = .moment) →
            block' = block.mergeSort (comparison.inOrder sorted.applied)))
        (blocksOf comparison.rowClass rows) (blocksOf comparison.rowClass sorted.rows) := by
  intro sorted
  have hclass : ∀ upper lower, comparison.outOfOrder sorted.applied upper lower = true →
      comparison.rowClass upper = comparison.rowClass lower :=
    fun _ _ h => (rowClass_of_outOfOrder h).2
  have hrows : sorted.rows = (comparison.sortIn sorted.applied rows).1 :=
    comparison.sort_rows requested rows
  rw [hrows]
  generalize sorted.applied = direction at hclass
  have hperm (block : List Row) : (comparison.sortIn direction block).1.Perm block :=
    exchangeSort_perm ..
  constructor
  · -- Row by row within each block, and so in all of them one after the other.
    have hblock : ∀ block ∈ blocksOf comparison.rowClass rows,
        List.Forall₂ (fun row row' => comparison.rowClass row' = comparison.rowClass row ∧
            (comparison.rowClass row = .missing → row' = row))
          block (comparison.sortIn direction block).1 := by
      intro block hblock
      by_cases hmissing : ∀ row ∈ block, comparison.rowClass row = .missing
      · rw [sortIn_of_missing hmissing]
        exact List.forall₂_same.2 fun row _ => ⟨rfl, fun _ => rfl⟩
      · rw [List.forall₂_iff_zip]
        refine ⟨(hperm block).length_eq.symm, fun {row row'} hzip => ?_⟩
        obtain ⟨hrow, hrow'⟩ := List.of_mem_zip hzip
        rw [(hperm block).mem_iff] at hrow'
        refine ⟨class_eq_of_mem_blocksOf hblock hrow' hrow, fun hm => absurd ?_ hmissing⟩
        exact fun other hother => (class_eq_of_mem_blocksOf hblock hother hrow).trans hm
    have hflatten := List.rel_flatten (List.forall₂_map_right_iff.2
      (List.forall₂_same.2 hblock))
    rw [blocksOf, List.flatten_splitBy] at hflatten
    have hsort := exchangeSort_eq_flatMap_blocks (comparison.outOfOrder_asymm direction) hclass rows
    rw [List.flatMap_def] at hsort
    unfold sortIn
    rw [hsort]
    exact hflatten
  · unfold sortIn
    rw [blocksOf_exchangeSort _ hclass, List.forall₂_map_right_iff, List.forall₂_same]
    intro block hblock
    refine ⟨hperm block, fun hmoment => ?_⟩
    have hkind : ∀ row ∈ block, comparison.kind? row = some .moment :=
      fun row hrow => kind?_of_moment (hmoment row hrow)
    exact (sortIn_stable hkind direction).eq_mergeSort (comparison.inOrder_trans direction)
      (comparison.inOrder_total direction)

end Comparison

end Scoreboard
