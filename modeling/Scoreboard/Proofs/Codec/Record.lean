import Mathlib.Data.List.Basic
import Scoreboard.Codec.Record

/-!
# Records, field by field

A record is read by taking one member after the other. If each field is read by itself and kept
apart from the others, a record depends on nothing but the value of each field, in whatever order
the members come.

## Main definitions

- `valueOf?` — the value of the first member of a name
- `GivenBy` — a datum is what a value means, if there is a value
- `Fields` — the fields that a record is changed by, each read by itself and kept apart

## Main statements

- `Fields.foldlM_eq_ok_iff` — a record is what is given for its fields, and what it was elsewhere
- `Fields.foldlM_filter` — members of other names play no part
-/

namespace Scoreboard

section

variable {ε ε' α β σ : Type}

theorem bind_eq_ok_iff {result : Except ε α} {f : α → Except ε β} {b : β} :
    result >>= f = .ok b ↔ ∃ a, result = .ok a ∧ f a = .ok b := by
  cases result <;> simp [bind, Except.bind]

theorem map_eq_ok_iff {result : Except ε α} {f : α → β} {b : β} :
    result.map f = .ok b ↔ ∃ a, result = .ok a ∧ f a = b := by
  cases result <;> simp [Except.map]

theorem mapError_eq_ok_iff {result : Except ε α} {f : ε → ε'} {a : α} :
    result.mapError f = .ok a ↔ result = .ok a := by
  cases result <;> simp [Except.mapError]

theorem mapError_id (result : Except ε α) : result.mapError id = result := by
  cases result <;> rfl

theorem foldlM_cons_eq_ok_iff {step : σ → α → Except ε σ} {item : α} {items : List α}
    {start last : σ} : (item :: items).foldlM step start = .ok last ↔
      ∃ state, step start item = .ok state ∧ items.foldlM step state = .ok last := by
  rw [List.foldlM_cons, bind_eq_ok_iff]

/-- What each step preserves holds at the end if it holds at the start. -/
theorem foldlM_induction {motive : σ → Prop} {step : σ → α → Except ε σ} {items : List α}
    {start last : σ} (hstart : motive start)
    (hstep : ∀ item ∈ items, ∀ state state', motive state → step state item = .ok state' →
      motive state')
    (hfold : items.foldlM step start = .ok last) : motive last := by
  induction items generalizing start with
  | nil =>
    cases hfold
    exact hstart
  | cons item items ih =>
    obtain ⟨hitem, hitems⟩ := List.forall_mem_cons.1 hstep
    obtain ⟨state, hfirst, hrest⟩ := foldlM_cons_eq_ok_iff.1 hfold
    exact ih (hitem _ _ hstart hfirst) hitems hrest

end

theorem IntKind.holds_iff (kind : IntKind) {n : Int} :
    kind.holds n = true ↔ kind.least ≤ n ∧ n < kind.bound := by
  simp [holds]

section

variable {V : Type} {members : List (String × V)} {name : String} {value : V}

/-- The value of the first member of a name. -/
def valueOf? (members : List (String × V)) (name : String) : Option V :=
  (members.find? fun member => member.1 = name).map Prod.snd

theorem valueOf?_cons_self (name : String) (value : V) (members : List (String × V)) :
    valueOf? ((name, value) :: members) name = some value := by
  simp [valueOf?]

theorem valueOf?_cons_of_ne {other : String} (hne : other ≠ name) (value : V)
    (members : List (String × V)) :
    valueOf? ((other, value) :: members) name = valueOf? members name := by
  simp [valueOf?, hne]

theorem valueOf?_eq_none_iff : valueOf? members name = none ↔ name ∉ members.map Prod.fst := by
  simp only [valueOf?, Option.map_eq_none_iff, List.find?_eq_none, decide_eq_true_eq, List.mem_map,
    not_exists, not_and]

theorem mem_of_valueOf? (h : valueOf? members name = some value) : (name, value) ∈ members := by
  obtain ⟨member, hfind, rfl⟩ := Option.map_eq_some_iff.1 h
  obtain rfl : member.1 = name := by simpa using List.find?_some hfind
  exact List.mem_of_find?_eq_some hfind

end

/-- A datum is what a value means; without a value, it is what it was before. -/
def GivenBy {V D : Type} (means : V → D → Prop) (before : D) : Option V → D → Prop
  | none, datum => datum = before
  | some value, datum => means value datum

/-- The fields that a record is changed by when its members are taken: each is read from a value by
    itself and kept apart from the others, and members of other names are passed over. -/
structure Fields {σ V ε : Type} (take : σ → String → V → Except ε σ) where
  Field : Type
  key : Field → String
  /-- What a field holds. -/
  Datum : Field → Type
  get : (field : Field) → σ → Datum field
  put : (field : Field) → Datum field → σ → σ
  /-- What a field holds if it is read from the value. -/
  Means : (field : Field) → V → Datum field → Prop
  ext : ∀ {state state'}, (∀ field, get field state = get field state') → state = state'
  get_put : ∀ field datum state, get field (put field datum state) = datum
  get_put_of_ne : ∀ {field other}, field ≠ other → ∀ datum state,
    get field (put other datum state) = get field state
  take_key : ∀ field state value {state'}, take state (key field) value = .ok state' ↔
    ∃ datum, Means field value datum ∧ put field datum state = state'
  take_other : ∀ name, (∀ field, key field ≠ name) → ∀ state value,
    take state name value = .ok state

namespace Fields

variable {σ V ε : Type} {take : σ → String → V → Except ε σ} (fields : Fields take)
  {members : List (String × V)} {start record : σ}

/-- The field holds what its member means. -/
def Given (field : fields.Field) (members : List (String × V)) (start record : σ) : Prop :=
  GivenBy (fields.Means field) (fields.get field start) (valueOf? members (fields.key field))
    (fields.get field record)

theorem means_unique (state : σ) {field : fields.Field} {value : V}
    {datum datum' : fields.Datum field} (h : fields.Means field value datum)
    (h' : fields.Means field value datum') : datum = datum' := by
  have htake := (fields.take_key field state value).2 ⟨datum, h, rfl⟩
  rw [(fields.take_key field state value).2 ⟨datum', h', rfl⟩] at htake
  rw [← fields.get_put field datum state, ← Except.ok.inj htake, fields.get_put]

theorem get_take {field : fields.Field} {name : String} (hname : fields.key field ≠ name)
    {state state' : σ} {value : V} (htake : take state name value = .ok state') :
    fields.get field state' = fields.get field state := by
  by_cases hother : ∃ other, fields.key other = name
  · obtain ⟨other, rfl⟩ := hother
    obtain ⟨datum, -, rfl⟩ := (fields.take_key other state value).1 htake
    exact fields.get_put_of_ne (fun heq => hname (congrArg fields.key heq)) datum state
  · rw [fields.take_other name (fun other heq => hother ⟨other, heq⟩)] at htake
    cases htake
    rfl

theorem given_of_foldlM (hnodup : (members.map Prod.fst).Nodup)
    (hfold : members.foldlM (fun state member => take state member.1 member.2) start = .ok record)
    (field : fields.Field) : fields.Given field members start record := by
  induction members generalizing start with
  | nil =>
    cases hfold
    rfl
  | cons member members ih =>
    obtain ⟨name, value⟩ := member
    obtain ⟨hnew, hnodup⟩ := List.nodup_cons.1 hnodup
    obtain ⟨state, htake, hfold⟩ := foldlM_cons_eq_ok_iff.1 hfold
    have hrest := ih hnodup hfold
    unfold Given at hrest ⊢
    by_cases hname : name = fields.key field
    · -- No later member has this name, so what is read here stays.
      subst hname
      rw [valueOf?_eq_none_iff.2 hnew] at hrest
      obtain ⟨datum, hmeans, rfl⟩ := (fields.take_key field start value).1 htake
      rw [valueOf?_cons_self, hrest, fields.get_put]
      exact hmeans
    · rw [valueOf?_cons_of_ne hname]
      rwa [fields.get_take (Ne.symm hname) htake] at hrest

theorem exists_foldlM (hnodup : (members.map Prod.fst).Nodup)
    (hmeans : ∀ field value, valueOf? members (fields.key field) = some value →
      ∃ datum, fields.Means field value datum) (start : σ) :
    ∃ record, members.foldlM (fun state member => take state member.1 member.2) start =
      .ok record := by
  induction members generalizing start with
  | nil => exact ⟨start, rfl⟩
  | cons member members ih =>
    obtain ⟨name, value⟩ := member
    obtain ⟨hnew, hnodup⟩ := List.nodup_cons.1 hnodup
    have htake : ∃ state, take start name value = .ok state := by
      by_cases hother : ∃ field, fields.key field = name
      · obtain ⟨field, rfl⟩ := hother
        obtain ⟨datum, hdatum⟩ := hmeans field value (valueOf?_cons_self _ _ _)
        exact ⟨_, (fields.take_key field start value).2 ⟨datum, hdatum, rfl⟩⟩
      · exact ⟨start, fields.take_other name (fun field heq => hother ⟨field, heq⟩) start value⟩
    obtain ⟨state, htake⟩ := htake
    -- The member in front hides none of the others, since its name does not come again.
    have hrest : ∀ field value, valueOf? members (fields.key field) = some value →
        ∃ datum, fields.Means field value datum := by
      intro field value hvalue
      refine hmeans field value ?_
      have hmem : fields.key field ∈ members.map Prod.fst :=
        List.mem_map_of_mem (mem_of_valueOf? hvalue)
      have hne : name ≠ fields.key field := fun heq => hnew (heq ▸ hmem)
      rw [valueOf?_cons_of_ne hne, hvalue]
    obtain ⟨record, hfold⟩ := ih hnodup hrest state
    exact ⟨record, foldlM_cons_eq_ok_iff.2 ⟨state, htake, hfold⟩⟩

/-- Members of distinct names make the record that they give field by field, and no other one. -/
theorem foldlM_eq_ok_iff (hnodup : (members.map Prod.fst).Nodup) :
    members.foldlM (fun state member => take state member.1 member.2) start = .ok record ↔
      ∀ field, fields.Given field members start record := by
  refine ⟨fields.given_of_foldlM hnodup, fun hgiven => ?_⟩
  have hmeans : ∀ field value, valueOf? members (fields.key field) = some value →
      ∃ datum, fields.Means field value datum := by
    intro field value hvalue
    have hfield := hgiven field
    rw [Given, hvalue] at hfield
    exact ⟨_, hfield⟩
  -- Some record is read, and since its fields are given as well, it is this one.
  obtain ⟨record', hfold⟩ := fields.exists_foldlM hnodup hmeans start
  have heq : record' = record := by
    refine fields.ext fun field => ?_
    have hfield := hgiven field
    have hfield' := fields.given_of_foldlM hnodup hfold field
    unfold Given at hfield hfield'
    cases hvalue : valueOf? members (fields.key field) with
    | none =>
      rw [hvalue] at hfield hfield'
      exact hfield'.trans hfield.symm
    | some value =>
      rw [hvalue] at hfield hfield'
      exact fields.means_unique start hfield' hfield
  rw [hfold, heq]

/-- Members of names that no field has are passed over. -/
theorem foldlM_filter {names : List String} (hnames : ∀ field, fields.key field ∈ names)
    (members : List (String × V)) (start : σ) :
    (members.filter fun member => member.1 ∈ names).foldlM
        (fun state member => take state member.1 member.2) start =
      members.foldlM (fun state member => take state member.1 member.2) start := by
  induction members generalizing start with
  | nil => rfl
  | cons member members ih =>
    by_cases hmember : member.1 ∈ names
    · rw [List.filter_cons_of_pos (by simpa using hmember), List.foldlM_cons, List.foldlM_cons]
      exact congrArg _ (funext fun state => ih state)
    · have hother : ∀ field, fields.key field ≠ member.1 :=
        fun field heq => hmember (heq ▸ hnames field)
      rw [List.filter_cons_of_neg (by simpa using hmember), List.foldlM_cons,
        fields.take_other _ hother]
      exact ih start

end Fields

end Scoreboard
