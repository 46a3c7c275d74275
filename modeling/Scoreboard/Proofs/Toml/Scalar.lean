import Scoreboard.Codec.Scalar
import Scoreboard.Proofs.Codec.Record
import Scoreboard.Proofs.Number.Decimal
import Scoreboard.Toml.Basic

/-!
# Simple data in TOML

A value stands for a text, for a whole number of a range or for a number of single precision. It is
read as nothing else, and where it stands for none of a kind, it is refused.

## Main definitions

- `Toml.IsText`, `Toml.IsWhole`, `Toml.IsSingle` — what a value stands for
- `IntKind.Spans` — a type of whole numbers is a range

## Main statements

- `Toml.bind_text_iff`, `Toml.bind_whole_iff`, `Toml.bind_single_iff` — a step that reads a value
  takes what the value stands for
-/

namespace Scoreboard

namespace Binary

variable {format target : BinaryFormat} {x : Binary target}

theorem ofRatio_eq_iff (hprecision : 2 ≤ target.precision) {negative : Bool} {num den : Nat}
    (hden : 0 < den) :
    target.ofRatio negative num den = x ↔ x.Rounds negative (num / den) := by
  have hrounds := BinaryFormat.rounds_ofRatio hprecision negative num hden
  constructor
  · rintro rfl
    exact hrounds
  · exact fun h => h.unique (by omega) hrounds

theorem convert_finite_eq_iff (hprecision : 2 ≤ target.precision) {y : Finite format} :
    (Binary.finite y).convert target = x ↔
      x.Rounds y.negative (y.units / 2 ^ format.scale) := by
  have hratio : target.ofRatio y.negative y.units (2 ^ format.scale) = x ↔ _ :=
    ofRatio_eq_iff hprecision (Nat.two_pow_pos format.scale)
  rw [Nat.cast_pow, Nat.cast_ofNat] at hratio
  exact hratio

end Binary

namespace Toml

/-- The value is a text. -/
def IsText (value : Toml) (s : String) : Prop :=
  ∃ span, value = .text span s

/-- The value is a whole number. -/
def IsWhole (value : Toml) (n : Int) : Prop :=
  ∃ span, value = .integer span n

/-- The value is a whole number of a range. -/
def IsWholeOf (kind : IntKind) (value : Toml) : Prop :=
  ∃ n, value.IsWhole n ∧ kind.least ≤ n ∧ n < kind.bound

/-- The value is a number, whole or not. -/
def IsNumber (value : Toml) : Prop :=
  (∃ n, value.IsWhole n) ∨ ∃ span x, value = .real span x

/-- The value is a number, whole or not, of which this is the nearest one of single precision. -/
inductive IsSingle : Toml → Binary binary32 → Prop
  | integer (span : Span) (n : Int) {x : Binary binary32}
      (h : x.Rounds (n < 0) n.natAbs) : IsSingle (.integer span n) x
  | finite (span : Span) (y : Finite binary64) {x : Binary binary32}
      (h : x.Rounds y.negative (y.units / 2 ^ binary64.scale)) : IsSingle (.real span (.finite y)) x
  | infinite (span : Span) (negative : Bool) :
      IsSingle (.real span (.infinite negative)) (.infinite negative)
  | nan (span : Span) : IsSingle (.real span .nan) .nan

theorem found_view (value : Toml) : value.view.found = value.found := by
  cases value <;> rfl

theorem isText_iff_found {value : Toml} {s : String} :
    value.IsText s ↔ value.found = .text s := by
  cases value <;> simp [IsText, found]

theorem isWhole_iff_found {value : Toml} {n : Int} :
    value.IsWhole n ↔ value.found = .integer n := by
  cases value <;> simp [IsWhole, found]

theorem toText_view_eq_ok_iff {value : Toml} {s : String} :
    value.view.toText = .ok s ↔ value.IsText s := by
  rw [isText_iff_found, View.toText, found_view]
  cases value.found <;> simp

theorem toWhole_view_eq_ok_iff {kind : IntKind} {value : Toml} {n : Int} :
    value.view.toWhole kind = .ok n ↔ value.IsWhole n ∧ kind.least ≤ n ∧ n < kind.bound := by
  rw [← IntKind.holds_iff, isWhole_iff_found, View.toWhole, found_view]
  cases value.found with
  | integer m =>
    dsimp only
    rw [Found.integer.injEq]
    split
    · next hholds =>
      rw [Except.ok.injEq]
      exact ⟨fun heq => ⟨heq, heq ▸ hholds⟩, And.left⟩
    · next hholds =>
      constructor
      · nofun
      · rintro ⟨rfl, h⟩
        exact absurd h hholds
  | _ => simp

theorem toSingle_view_eq_ok_iff {value : Toml} {x : Binary binary32} :
    value.view.toSingle = .ok x ↔ value.IsSingle x := by
  cases value with
  | integer span n =>
    have hsingle : (integer span n).IsSingle x ↔ x.Rounds (n < 0) n.natAbs :=
      ⟨fun h => by cases h; assumption, .integer span n⟩
    show Except.ok (binary32.ofRatio (n < 0) n.natAbs 1) = .ok x ↔ _
    rw [hsingle, Except.ok.injEq, Binary.ofRatio_eq_iff (by decide) Nat.one_pos, Nat.cast_one,
      div_one]
  | real span y =>
    show Except.ok (y.convert binary32) = .ok x ↔ _
    rw [Except.ok.injEq]
    cases y with
    | finite y =>
      rw [Binary.convert_finite_eq_iff (by decide)]
      exact ⟨.finite span y, fun h => by cases h; assumption⟩
    | infinite negative =>
      constructor
      · rintro rfl
        exact .infinite span negative
      · rintro ⟨⟩
        rfl
    | nan =>
      constructor
      · rintro rfl
        exact .nan span
      · rintro ⟨⟩
        rfl
  | text _ _ | bool _ _ | date _ _ | array _ _ | tables _ | table _ _ _ =>
    constructor
    · nofun
    · nofun

/-- It plays no part where a value stands. -/
theorem isSingle_congr {value value' : Toml} (h : value.found = value'.found)
    {x : Binary binary32} : value.IsSingle x ↔ value'.IsSingle x := by
  rw [← toSingle_view_eq_ok_iff, ← toSingle_view_eq_ok_iff, View.toSingle, View.toSingle,
    found_view, found_view, h]

/-- Every number is rounded to one of single precision. -/
theorem exists_isSingle_iff {value : Toml} : (∃ x, value.IsSingle x) ↔ value.IsNumber := by
  constructor
  · rintro ⟨x, hx⟩
    cases hx with
    | integer span n _ => exact .inl ⟨n, span, rfl⟩
    | finite span y _ => exact .inr ⟨span, _, rfl⟩
    | infinite span negative => exact .inr ⟨span, _, rfl⟩
    | nan span => exact .inr ⟨span, _, rfl⟩
  · rintro (⟨n, span, rfl⟩ | ⟨span, x, rfl⟩)
    · exact ⟨_, toSingle_view_eq_ok_iff.1 rfl⟩
    · exact ⟨_, toSingle_view_eq_ok_iff.1 rfl⟩

end Toml

/-- A type of whole numbers that is the range of whole numbers of a kind. -/
structure IntKind.Spans {α : Type} (kind : IntKind) (ofInt : Int → α) (toInt : α → Int) : Prop where
  toInt_ofInt : ∀ n, kind.least ≤ n → n < kind.bound → toInt (ofInt n) = n
  ofInt_toInt : ∀ a, ofInt (toInt a) = a
  range : ∀ a, kind.least ≤ toInt a ∧ toInt a < kind.bound

namespace IntKind

/-- Numbers of a type that are counted from zero up to its size. -/
theorem spans_of_size {α : Type} {kind : IntKind} {ofNat : Nat → α} {toNat : α → Nat} {size : Nat}
    (hleast : kind.least = 0) (hbound : kind.bound = size) (hlt : ∀ a, toNat a < size)
    (hofNat : ∀ a, ofNat (toNat a) = a) (htoNat : ∀ n < size, toNat (ofNat n) = n) :
    kind.Spans (fun n => ofNat n.toNat) (fun a => (toNat a : Int)) where
  toInt_ofInt n hn hn' := by
    rw [hleast] at hn
    rw [hbound] at hn'
    rw [htoNat n.toNat (by omega), Int.toNat_of_nonneg hn]
  ofInt_toInt := hofNat
  range a := by
    rw [hleast, hbound]
    exact ⟨Int.natCast_nonneg _, Int.ofNat_lt.2 (hlt a)⟩

theorem spans_uint32 :
    uint32.Spans (fun n => UInt32.ofNat n.toNat) (fun span : UInt32 => (span.toNat : Int)) :=
  spans_of_size rfl rfl UInt32.toNat_lt (fun _ => UInt32.ofNat_toNat)
    fun _ => UInt32.toNat_ofNat_of_lt'

theorem spans_uint64 :
    uint64.Spans (fun n => UInt64.ofNat n.toNat) (fun count : UInt64 => (count.toNat : Int)) :=
  spans_of_size rfl rfl UInt64.toNat_lt (fun _ => UInt64.ofNat_toNat)
    fun _ => UInt64.toNat_ofNat_of_lt'

/-- Counts and indexes have 64 bits. -/
theorem spans_size :
    size.Spans (fun n => UInt64.ofNat n.toNat) (fun count : UInt64 => (count.toNat : Int)) :=
  ⟨spans_uint64.toInt_ofInt, spans_uint64.ofInt_toInt, spans_uint64.range⟩

theorem spans_int32 : int32.Spans Int32.ofInt Int32.toInt where
  toInt_ofInt n hleast hbound := by
    simp only [least, bound] at hleast hbound
    exact Int32.toInt_ofInt_of_le (by omega) (by omega)
  ofInt_toInt a := Int32.ofInt_toInt a
  range a := ⟨a.le_toInt, a.toInt_lt⟩

end IntKind

theorem IntKind.Spans.exists_isWhole_iff {α : Type} {kind : IntKind} {ofInt : Int → α}
    {toInt : α → Int} (h : kind.Spans ofInt toInt) {value : Toml} :
    (∃ a, value.IsWhole (toInt a)) ↔ value.IsWholeOf kind := by
  constructor
  · rintro ⟨a, hwhole⟩
    exact ⟨toInt a, hwhole, h.range a⟩
  · rintro ⟨n, hwhole, hleast, hbound⟩
    exact ⟨ofInt n, (h.toInt_ofInt n hleast hbound).symm ▸ hwhole⟩

/-! ### Steps that read a value -/

namespace Toml

variable {σ : Type} {value : Toml} {state : σ}

theorem bind_text_iff (put : String → σ) :
    (blame value value.view.toText >>= fun s => .ok (put s)) = .ok state ↔
      ∃ s, value.IsText s ∧ put s = state := by
  simp only [bind_eq_ok_iff, blame, mapError_eq_ok_iff, toText_view_eq_ok_iff, Except.ok.injEq]

theorem bind_single_iff (put : Binary binary32 → σ) :
    (blame value value.view.toSingle >>= fun x => .ok (put x)) = .ok state ↔
      ∃ x, value.IsSingle x ∧ put x = state := by
  simp only [bind_eq_ok_iff, blame, mapError_eq_ok_iff, toSingle_view_eq_ok_iff, Except.ok.injEq]

theorem bind_whole_iff {α : Type} {kind : IntKind} {ofInt : Int → α} {toInt : α → Int}
    (h : kind.Spans ofInt toInt) (put : α → σ) :
    (blame value (value.view.toWhole kind) >>= fun n => .ok (put (ofInt n))) = .ok state ↔
      ∃ a, value.IsWhole (toInt a) ∧ put a = state := by
  simp only [bind_eq_ok_iff, blame, mapError_eq_ok_iff, toWhole_view_eq_ok_iff, Except.ok.injEq]
  constructor
  · rintro ⟨n, ⟨hwhole, hleast, hbound⟩, hstate⟩
    exact ⟨ofInt n, (h.toInt_ofInt n hleast hbound).symm ▸ hwhole, hstate⟩
  · rintro ⟨a, hwhole, hstate⟩
    exact ⟨toInt a, ⟨hwhole, h.range a⟩, (h.ofInt_toInt a).symm ▸ hstate⟩

end Toml

end Scoreboard
