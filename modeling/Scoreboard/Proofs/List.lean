import Mathlib.Data.List.Chain
import Mathlib.Data.List.Nodup

/-!
# Lists

Facts about lists of anything.

## Main statements

- `List.filter_zipIdx_singleton` — the element at a place is the only one at that place
- `List.ne_of_nodup_map` — where names are distinct, each stands once
- `List.pairwise_of_isChain` — what relates neighbours and is transitive on a list relates all
- `List.pairwise_exchange` — neighbours may be exchanged if they are related the other way round
-/

namespace List

universe u v

variable {α : Type u} {β : Type v}

theorem filterMap_concat (f : α → Option β) (xs : List α) (x : α) :
    (xs ++ [x]).filterMap f = xs.filterMap f ++ (f x).toList := by
  rw [filterMap_append]
  cases h : f x with
  | none => rw [filterMap_cons_none h]; rfl
  | some y => rw [filterMap_cons_some h]; rfl

theorem filterMap_dropWhile_isNone (f : α → Option β) (xs : List α) :
    (xs.dropWhile fun x => (f x).isNone).filterMap f = xs.filterMap f := by
  induction xs with
  | nil => rfl
  | cons x rest ih =>
    rw [dropWhile_cons]
    split
    · next hnone => rw [ih, filterMap_cons_none (Option.isNone_iff_eq_none.1 hnone)]
    · rfl

theorem filter_zipIdx_singleton (xs : List α) (position : Nat) :
    xs.zipIdx.filter (fun entry => entry.2 ∈ [position]) =
      (xs[position]?).toList.map fun x => (x, position) := by
  -- The places are counted from any start, for the rest of a list starts further on.
  suffices hstart : ∀ (xs : List α) (start position : Nat),
      (xs.zipIdx start).filter (fun entry => entry.2 ∈ [start + position]) =
        (xs[position]?).toList.map fun x => (x, start + position) by
    have hzero := hstart xs 0 position
    rwa [Nat.zero_add] at hzero
  intro xs
  induction xs with
  | nil => intro start position; rfl
  | cons x rest ih =>
    intro start position
    rw [zipIdx_cons]
    cases position with
    | zero =>
      have hlater : (rest.zipIdx (start + 1)).filter (fun entry => entry.2 ∈ [start + 0]) = [] := by
        rw [filter_eq_nil_iff]
        intro entry hentry
        have hlt := le_snd_of_mem_zipIdx hentry
        simp only [mem_singleton, decide_eq_true_eq]
        omega
      rw [filter_cons_of_pos (by simp), hlater]
      rfl
    | succ position =>
      have hrest := ih (start + 1) position
      rw [Nat.add_right_comm] at hrest
      rw [filter_cons_of_neg (by simp)]
      exact hrest

section

variable {nameOf : α → β} {front back : List α} {item : α}
  (h : ((front ++ item :: back).map nameOf).Nodup)

include h

/-- Where names are distinct, no item before or after another one has its name. -/
theorem ne_of_nodup_map :
    (∀ other ∈ front, nameOf other ≠ nameOf item) ∧
      ∀ other ∈ back, nameOf other ≠ nameOf item := by
  rw [map_append, map_cons, nodup_append, nodup_cons] at h
  obtain ⟨-, ⟨hback, -⟩, hfront⟩ := h
  refine ⟨fun other hother => hfront _ (mem_map_of_mem hother) _ mem_cons_self, ?_⟩
  intro other hother hname
  exact hback (hname ▸ mem_map_of_mem hother)

theorem notMem_of_nodup_map : nameOf item ∉ front.map nameOf := by
  intro hmem
  obtain ⟨other, hother, hname⟩ := mem_map.1 hmem
  exact (ne_of_nodup_map h).1 other hother hname

end

/-- A relation between neighbours that is transitive on a list relates all its elements. -/
theorem pairwise_of_isChain {rel : α → α → Prop} {xs : List α}
    (trans : ∀ a ∈ xs, ∀ b ∈ xs, ∀ c ∈ xs, rel a b → rel b c → rel a c) (h : xs.IsChain rel) :
    xs.Pairwise rel := by
  induction xs with
  | nil => exact .nil
  | cons a rest ih =>
    have hrest : rest.Pairwise rel :=
      ih (fun a ha b hb c hc => trans a (.tail _ ha) b (.tail _ hb) c (.tail _ hc)) h.tail
    refine .cons ?_ hrest
    intro c hc
    cases rest with
    | nil => cases hc
    | cons b rest =>
      have hab : rel a b := (isChain_cons_cons.1 h).1
      rcases mem_cons.1 hc with rfl | hmem
      · exact hab
      · exact trans a mem_cons_self b (.tail _ mem_cons_self) c (.tail _ hc) hab
          (rel_of_pairwise_cons hrest hmem)

theorem pairwise_exchange {rel : α → α → Prop} {front back : List α} {a b : α}
    (h : (front ++ a :: b :: back).Pairwise rel) (hba : rel b a) :
    (front ++ b :: a :: back).Pairwise rel := by
  rw [pairwise_append] at h ⊢
  obtain ⟨hfront, hback, hcross⟩ := h
  simp only [pairwise_cons, mem_cons] at hback hcross ⊢
  refine ⟨hfront, ⟨?_, fun c hc => hback.1 c (.inr hc), hback.2.2⟩, ?_⟩
  · rintro c (rfl | hc)
    · exact hba
    · exact hback.2.1 c hc
  · rintro c hc d (rfl | rfl | hd)
    · exact hcross c hc d (.inr (.inl rfl))
    · exact hcross c hc d (.inl rfl)
    · exact hcross c hc d (.inr (.inr hd))

end List
