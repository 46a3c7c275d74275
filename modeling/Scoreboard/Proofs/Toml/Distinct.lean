import Mathlib.Data.List.Nodup
import Scoreboard.Proofs.Codec.Record
import Scoreboard.Toml.Document

/-!
# Names in TOML documents

No table of a document has two members of one name: whatever is added to a table is added under a
name that is not taken, or in place of what it extends.

## Main definitions

- `Toml.Distinct` — no table within a value has two members of one name
- `Toml.AllDistinct` — nor do members, nor any table within them

## Main statements

- `Toml.allDistinct_put` — a member that is added leaves names distinct
- `Toml.distinct_readValue` — a value is read with distinct names
- `Toml.allDistinct_document` — a document has distinct names
-/

namespace Scoreboard.Toml

/-- No table within the value has two members of one name. -/
inductive Distinct : Toml → Prop
  | text (span : Span) (value : String) : Distinct (.text span value)
  | integer (span : Span) (value : Int) : Distinct (.integer span value)
  | real (span : Span) (value : Binary binary64) : Distinct (.real span value)
  | bool (span : Span) (value : Bool) : Distinct (.bool span value)
  | date (span : Span) (written : String) : Distinct (.date span written)
  | array (span : Span) {items : List Toml} (h : ∀ item ∈ items, Distinct item) :
      Distinct (.array span items)
  | tables {items : List (Span × List (String × Toml))}
      (hnodup : ∀ item ∈ items, (item.2.map Prod.fst).Nodup)
      (h : ∀ item ∈ items, ∀ member ∈ item.2, Distinct member.2) : Distinct (.tables items)
  | table (span : Span) (origin : TableOrigin) {members : List (String × Toml)}
      (hnodup : (members.map Prod.fst).Nodup) (h : ∀ member ∈ members, Distinct member.2) :
      Distinct (.table span origin members)

/-- No two of the members have one name, and no table within them has two such members. -/
structure AllDistinct (members : List (String × Toml)) : Prop where
  nodup : (members.map Prod.fst).Nodup
  distinct : ∀ member ∈ members, Distinct member.2

theorem distinct_table_iff {span : Span} {origin : TableOrigin} {members : List (String × Toml)} :
    Distinct (.table span origin members) ↔ AllDistinct members := by
  constructor
  · intro htable
    cases htable with
    | table _ _ hnodup h => exact ⟨hnodup, h⟩
  · exact fun h => .table span origin h.nodup h.distinct

theorem distinct_tables_iff {items : List (Span × List (String × Toml))} :
    Distinct (.tables items) ↔ ∀ item ∈ items, AllDistinct item.2 := by
  constructor
  · intro hitems item hitem
    cases hitems with
    | tables hnodup h => exact ⟨hnodup item hitem, h item hitem⟩
  · exact fun h => .tables (fun item hitem => (h item hitem).nodup)
      fun item hitem => (h item hitem).distinct

section

variable {members : List (String × Toml)} {name : String} {value : Toml}

theorem allDistinct_nil : AllDistinct [] :=
  ⟨List.nodup_nil, List.forall_mem_nil _⟩

theorem AllDistinct.append (h : AllDistinct members) (hnew : lookup? members name = none)
    (hvalue : Distinct value) : AllDistinct (members ++ [(name, value)]) where
  nodup := by
    rw [List.map_append, List.map_singleton, ← List.concat_eq_append]
    exact h.nodup.concat (valueOf?_eq_none_iff.1 hnew)
  distinct := by
    rw [List.forall_mem_append, List.forall_mem_singleton]
    exact ⟨h.distinct, hvalue⟩

theorem map_fst_replace (members : List (String × Toml)) (name : String) (value : Toml) :
    (replace members name value).map Prod.fst = members.map Prod.fst := by
  unfold replace
  rw [List.map_map]
  refine List.map_congr_left fun member _ => ?_
  by_cases hname : member.1 = name <;> simp [hname]

theorem AllDistinct.replace (h : AllDistinct members) (hvalue : Distinct value) :
    AllDistinct (replace members name value) where
  nodup := by
    rw [map_fst_replace]
    exact h.nodup
  distinct := by
    unfold Toml.replace
    rw [List.forall_mem_map]
    intro member hmember
    split
    · exact hvalue
    · exact h.distinct member hmember

theorem AllDistinct.lookup? (h : AllDistinct members) (hvalue : lookup? members name = some value) :
    Distinct value :=
  h.distinct _ (mem_of_valueOf? hvalue)

variable {inner inner' : List (String × Toml)}

/-- A table is extended in its place. -/
theorem AllDistinct.extend {span span' : Span} {origin origin' : TableOrigin}
    (h : AllDistinct members) (hfound : Toml.lookup? members name = some (.table span origin inner))
    (hinner : AllDistinct inner → AllDistinct inner') :
    AllDistinct (Toml.replace members name (.table span' origin' inner')) :=
  h.replace (distinct_table_iff.2 (hinner (distinct_table_iff.1 (h.lookup? hfound))))

/-- Of several tables, the last one is extended. -/
theorem AllDistinct.extendLast {items : List (Span × List (String × Toml))} {span span' : Span}
    (h : AllDistinct members) (hfound : Toml.lookup? members name = some (.tables items))
    (hlast : items.getLast? = some (span, inner))
    (hinner : AllDistinct inner → AllDistinct inner') :
    AllDistinct (Toml.replace members name (.tables (items.dropLast ++ [(span', inner')]))) := by
  have hitems := distinct_tables_iff.1 (h.lookup? hfound)
  refine h.replace (distinct_tables_iff.2 ?_)
  rw [List.forall_mem_append, List.forall_mem_singleton]
  exact ⟨fun item hitem => hitems item (List.dropLast_subset items hitem),
    hinner (hitems _ (List.mem_of_getLast? hlast))⟩

end

/-- A member is added at the end of its path, and each table on the way takes the place of the one
    that it extends. -/
theorem allDistinct_put {place : Option (List String)} {name : String} {value : Toml}
    (hvalue : Distinct value) {trail : List String} {path : List KeyPart}
    {members members' : List (String × Toml)} (hmembers : AllDistinct members)
    (hput : put place name value trail path members = .ok members') : AllDistinct members' := by
  induction path generalizing trail members members' with
  | nil =>
    unfold put at hput
    split at hput
    · cases hput
    · next hnew =>
      cases hput
      exact hmembers.append hnew hvalue
  | cons part path ih =>
    unfold put at hput
    dsimp only at hput
    split at hput
    · -- The name of the part is new.
      next hnew =>
      obtain ⟨inner', hinner, heq⟩ := bind_eq_ok_iff.1 hput
      cases heq
      exact hmembers.append hnew (distinct_table_iff.2 (ih allDistinct_nil hinner))
    · -- It is that of a table made by dotted keys.
      next span inner hfound =>
      obtain ⟨inner', hinner, heq⟩ := bind_eq_ok_iff.1 hput
      cases heq
      exact hmembers.extend hfound fun h => ih h hinner
    · -- It is that of a table on the way to a header.
      next span inner hfound =>
      split at hput
      · cases hput
      · obtain ⟨inner', hinner, heq⟩ := bind_eq_ok_iff.1 hput
        cases heq
        exact hmembers.extend hfound fun h => ih h hinner
    · cases hput
    · split at hput <;> cases hput
    · -- It is that of several tables.
      next items hfound =>
      split at hput
      · next span last hpath hlast =>
        obtain ⟨last', hinner, heq⟩ := bind_eq_ok_iff.1 hput
        cases heq
        exact hmembers.extendLast hfound hlast fun h => ih h hinner
      · cases hput
    · cases hput

theorem allDistinct_ofMembers {members : List Member} {entries : List (String × Toml)}
    (hvalues : ∀ member ∈ members, Distinct member.value)
    (hentries : ofMembers members = .ok entries) : AllDistinct entries :=
  foldlM_induction allDistinct_nil
    (fun member hmember _ _ hstate hput => allDistinct_put (hvalues member hmember) hstate hput)
    hentries

/-! ### Values -/

section

variable {α β : Type} {result : Except Problem α} {a : α}

theorem settle_eq_ok_iff : settle result = .ok a ↔ result = .ok a :=
  mapError_eq_ok_iff

theorem within_eq_ok_iff {part : Part} : within part result = .ok a ↔ result = .ok a :=
  mapError_eq_ok_iff

theorem expecting_eq_ok_iff {due : List Due} : expecting due result = .ok a ↔ result = .ok a :=
  mapError_eq_ok_iff

theorem of_orElse_eq_ok {other : Unit → Except Problem α} (h : orElse result other = .ok a) :
    result = .ok a ∨ other () = .ok a := by
  unfold orElse at h
  split at h
  · exact .inl h
  · split at h
    · cases h
    · exact .inr h

end

/-- Whatever is read holds no table, wherever it is said to stand. -/
def Flat (found : Parsed (Span → Toml)) : Prop :=
  ∀ span, Distinct (found.1 span)

theorem flat_of_map {α : Type} {result : Except Problem (Parsed α)} {make : Span → α → Toml}
    (hmake : ∀ span a, Distinct (make span a)) {found : Parsed (Span → Toml)}
    (h : (result.map fun found => (fun span => make span found.1, found.2)) = .ok found) :
    Flat found := by
  obtain ⟨parsed, -, rfl⟩ := map_eq_ok_iff.1 h
  exact fun span => hmake span parsed.1

theorem flat_readNumeric {cs : List Char} {found : Parsed (Span → Toml)}
    (h : readNumeric cs = .ok found) : Flat found := by
  obtain hdate | hnumber := of_orElse_eq_ok h
  · exact flat_of_map .date hdate
  · obtain hreal | hwhole := of_orElse_eq_ok hnumber
    · exact flat_of_map .real hreal
    · exact flat_of_map .integer hwhole

theorem flat_readWord {word cs : List Char} {value : Span → Toml}
    (hvalue : ∀ span, Distinct (value span)) {found : Parsed (Span → Toml)}
    (h : readWord word value cs = .ok found) : Flat found := by
  unfold readWord at h
  rw [expecting_eq_ok_iff, within_eq_ok_iff] at h
  split at h
  · cases h
    exact hvalue
  · cases h

theorem flat_readUnplaced {cs : List Char} {found : Parsed (Span → Toml)}
    (h : readUnplaced cs = .ok found) : Flat found := by
  unfold readUnplaced at h
  split at h
  · cases h
  · dsimp only at h
    split at h
    · exact flat_of_map .text h
    split at h
    · exact flat_readNumeric h
    split at h
    · exact flat_of_map .integer (expecting_eq_ok_iff.1 h)
    split at h
    · exact flat_of_map .real (expecting_eq_ok_iff.1 h)
    split at h
    · exact flat_readWord (fun span => .bool span true) (settle_eq_ok_iff.1 h)
    split at h
    · exact flat_readWord (fun span => .bool span false) (settle_eq_ok_iff.1 h)
    split at h
    · exact flat_readWord (fun span => .real span .nan) h
    · exact flat_readWord (fun span => .real span (.infinite false)) h

theorem distinct_readScalar {cs : List Char} {found : Parsed Toml} (h : readScalar cs = .ok found) :
    Distinct found.1 := by
  obtain ⟨⟨value, rest⟩, hvalue, heq⟩ := bind_eq_ok_iff.1 h
  cases heq
  exact flat_readUnplaced hvalue _

/-- A reader of values with distinct names. -/
def ReadsDistinct (value : List Char → Except Problem (Parsed Toml)) : Prop :=
  ∀ cs found, value cs = .ok found → Distinct found.1

section

variable {value : List Char → Except Problem (Parsed Toml)} (hvalue : ReadsDistinct value)

include hvalue

theorem distinct_readItems {steps : Nat} {before : List Toml} {cs : List Char}
    {found : Parsed (List Toml)} (hbefore : ∀ item ∈ before, Distinct item)
    (h : readItems value steps before cs = .ok found) : ∀ item ∈ found.1, Distinct item := by
  induction steps generalizing before cs with
  | zero => cases h
  | succ steps ih =>
    have hend : ∀ {isEmpty : Bool}, (closeItems isEmpty cs >>= fun rest =>
        (.ok (before.reverse, rest) : Except Problem _)) = .ok found →
          ∀ item ∈ found.1, Distinct item := by
      intro isEmpty hclose
      obtain ⟨rest, -, heq⟩ := bind_eq_ok_iff.1 hclose
      cases heq
      exact fun item hitem => hbefore item (List.mem_reverse.1 hitem)
    unfold readItems at h
    dsimp only at h
    split at h
    · next item rest hnext =>
      refine ih ?_ h
      obtain ⟨start, -, hitem⟩ := Option.map_eq_some_iff.1 hnext
      obtain ⟨_, -, hitem⟩ := bind_eq_ok_iff.1 hitem
      obtain ⟨⟨item', rest'⟩, hread, hitem⟩ := bind_eq_ok_iff.1 hitem
      obtain ⟨_, -, heq⟩ := bind_eq_ok_iff.1 hitem
      cases heq
      exact List.forall_mem_cons.2 ⟨hvalue _ _ hread, hbefore⟩
    · split at h
      · cases h
      · exact hend h
    · exact hend h

theorem distinct_readMember {cs : List Char} {found : Parsed Member}
    (h : readMember value cs = .ok found) : Distinct found.1.value := by
  obtain ⟨⟨key, rest⟩, -, h⟩ := bind_eq_ok_iff.1 h
  obtain ⟨start, -, h⟩ := bind_eq_ok_iff.1 h
  obtain ⟨⟨value', rest'⟩, hread, heq⟩ := bind_eq_ok_iff.1 h
  cases heq
  exact hvalue _ _ (settle_eq_ok_iff.1 hread)

theorem distinct_readMembers {steps : Nat} {before : List Member} {cs : List Char}
    {found : Parsed (List Member)} (hbefore : ∀ member ∈ before, Distinct member.value)
    (h : readMembers value steps before cs = .ok found) :
    ∀ member ∈ found.1, Distinct member.value := by
  have hend : ∀ member ∈ before.reverse, Distinct member.value :=
    fun member hmember => hbefore member (List.mem_reverse.1 hmember)
  induction steps generalizing before cs with
  | zero => cases h
  | succ steps ih =>
    unfold readMembers at h
    dsimp only at h
    split at h
    · next member rest hnext =>
      obtain ⟨start, -, hmember⟩ := Option.map_eq_some_iff.1 hnext
      have hbefore' : ∀ other ∈ member :: before, Distinct other.value := by
        rw [List.forall_mem_cons]
        exact ⟨distinct_readMember hvalue hmember, hbefore⟩
      exact ih hbefore' h fun other hother => hbefore' other (List.mem_reverse.1 hother)
    · split at h
      · cases h
      · cases h
        exact hend
    · cases h
      exact hend

theorem allDistinct_readInline {cs : List Char} {found : Parsed (List (String × Toml))}
    (h : readInline value cs = .ok found) : AllDistinct found.1 := by
  obtain ⟨⟨members, rest⟩, hmembers, h⟩ := bind_eq_ok_iff.1 h
  dsimp only at h
  split at h
  · cases h
  · next entries hentries =>
    have hdistinct := distinct_readMembers hvalue (List.forall_mem_nil _) hmembers
    split at h
    · cases h
      exact allDistinct_ofMembers hdistinct hentries
    · rw [settle_eq_ok_iff, expecting_eq_ok_iff, within_eq_ok_iff] at h
      cases h

end

/-- Names are distinct however deep a value is nested. -/
theorem distinct_readValue (depth : Nat) : ReadsDistinct (readValue depth) := by
  induction depth with
  | zero =>
    intro cs found h
    unfold readValue at h
    split at h
    · cases h
    · cases h
    · exact distinct_readScalar h
  | succ depth ih =>
    intro cs found h
    unfold readValue at h
    split at h
    · obtain ⟨⟨items, rest⟩, hitems, heq⟩ := bind_eq_ok_iff.1 h
      cases heq
      exact .array _ (distinct_readItems ih (List.forall_mem_nil _) hitems)
    · obtain ⟨⟨members, rest⟩, hmembers, heq⟩ := bind_eq_ok_iff.1 h
      cases heq
      exact distinct_table_iff.2 (allDistinct_readInline ih hmembers)
    · exact distinct_readScalar h

/-! ### Documents -/

theorem allDistinct_membersAt {trail : List String} {path : List KeyPart}
    {members found : List (String × Toml)} (hmembers : AllDistinct members)
    (h : membersAt trail path members = .ok found) : AllDistinct found := by
  induction path generalizing trail members with
  | nil =>
    cases h
    exact hmembers
  | cons part path ih =>
    unfold membersAt at h
    dsimp only at h
    split at h
    · cases h
      exact allDistinct_nil
    · next span origin inner hfound =>
      split at h
      · cases h
      · exact ih (distinct_table_iff.1 (hmembers.lookup? hfound)) h
    · next items hfound =>
      split at h
      · next last hlast =>
        exact ih (distinct_tables_iff.1 (hmembers.lookup? hfound) _ (List.mem_of_getLast? hlast)) h
      · cases h
        exact allDistinct_nil
    · cases h

theorem membersAt_nil (trail : List String) (path : List KeyPart) :
    membersAt trail path [] = .ok [] := by
  cases path <;> rfl

/-- A change to the members at the end of a path keeps names distinct if it does there. -/
theorem allDistinct_changeAt {change : List (String × Toml) → List (String × Toml)}
    {trail : List String} {path : List KeyPart} {members found : List (String × Toml)}
    (hmembers : AllDistinct members) (hfound : membersAt trail path members = .ok found)
    (hchange : AllDistinct (change found)) : AllDistinct (changeAt change path members) := by
  induction path generalizing trail members with
  | nil =>
    cases hfound
    exact hchange
  | cons part path ih =>
    unfold membersAt at hfound
    unfold changeAt
    dsimp only at hfound
    split at hfound
    · next hnew =>
      cases hfound
      exact hmembers.append hnew
        (distinct_table_iff.2 (ih allDistinct_nil (membersAt_nil [] path)))
    · next span origin inner hinner =>
      split at hfound
      · cases hfound
      · exact hmembers.extend hinner fun h => ih h hfound
    · next items hitems =>
      split at hfound
      · next last hlast =>
        rw [hlast]
        exact hmembers.extendLast hitems hlast fun h => ih h hfound
      · next hlast =>
        rw [hlast]
        exact hmembers
    · cases hfound

/-- A table that gets its header is moved to the end. -/
theorem AllDistinct.moveToEnd {members : List (String × Toml)} (h : AllDistinct members)
    (name : String) {value : Toml} (hvalue : Distinct value) :
    AllDistinct (members.filter (fun member => member.1 ≠ name) ++ [(name, value)]) := by
  have hfilter : AllDistinct (members.filter fun member => member.1 ≠ name) :=
    ⟨h.nodup.sublist (List.filter_sublist.map Prod.fst),
      fun member hmember => h.distinct member (List.mem_of_mem_filter hmember)⟩
  refine hfilter.append (valueOf?_eq_none_iff.2 fun hmem => ?_) hvalue
  obtain ⟨member, hmember, hname⟩ := List.mem_map.1 hmem
  simp [hname] at hmember

/-- A section of the header fits into the document: its path leads to members, among which nothing
    but tables under headers of that name takes the place of a further one. -/
def Header.Fits (members : List (String × Toml)) : Header → Prop
  | none => True
  | table key => ∃ found, membersAt [] key.path members = .ok found
  | item key => ∃ found, membersAt [] key.path members = .ok found ∧
      ∀ value, lookup? found key.name = some value → ∃ items, value = .tables items

/-- The names of a document as far as it was read are distinct, and so they are once its section is
    put in place. -/
structure Draft.AllDistinct (draft : Draft) : Prop where
  members : Toml.AllDistinct draft.members
  header : draft.header.Fits draft.members
  current : Toml.AllDistinct draft.current

namespace Draft

variable {draft draft' : Draft}

theorem AllDistinct.close (h : draft.AllDistinct) : Toml.AllDistinct draft.close := by
  have hfits := h.header
  unfold Draft.close
  split
  · exact h.current
  · next key hheader =>
    rw [hheader] at hfits
    obtain ⟨found, hfound⟩ := hfits
    have hdistinct := allDistinct_membersAt h.members hfound
    exact allDistinct_changeAt h.members hfound
      (hdistinct.moveToEnd key.name (distinct_table_iff.2 h.current))
  · next key hheader =>
    rw [hheader] at hfits
    obtain ⟨found, hfound, htables⟩ := hfits
    have hdistinct := allDistinct_membersAt h.members hfound
    refine allDistinct_changeAt h.members hfound ?_
    cases hvalue : lookup? found key.name with
    | none =>
      refine hdistinct.append hvalue (distinct_tables_iff.2 ?_)
      rw [List.forall_mem_singleton]
      exact h.current
    | some value =>
      obtain ⟨items, rfl⟩ := htables value hvalue
      refine hdistinct.replace (distinct_tables_iff.2 ?_)
      rw [List.forall_mem_append, List.forall_mem_singleton]
      exact ⟨distinct_tables_iff.1 (hdistinct.lookup? hvalue), h.current⟩

theorem AllDistinct.enter (h : draft.AllDistinct) {header : Header} {span : Span}
    (henter : draft.enter header span = .ok draft') : draft'.AllDistinct := by
  have hmembers := h.close
  unfold Draft.enter at henter
  cases header with
  | none =>
    cases henter
    exact ⟨hmembers, trivial, allDistinct_nil⟩
  | table key =>
    dsimp only at henter
    obtain ⟨found, hfound, henter⟩ := bind_eq_ok_iff.1 henter
    have hdistinct := allDistinct_membersAt hmembers hfound
    split at henter
    · cases henter
      exact ⟨hmembers, ⟨found, hfound⟩, allDistinct_nil⟩
    · next inner hinner =>
      cases henter
      exact ⟨hmembers, ⟨found, hfound⟩, distinct_table_iff.1 (hdistinct.lookup? hinner)⟩
    · cases henter
  | item key =>
    dsimp only at henter
    obtain ⟨found, hfound, henter⟩ := bind_eq_ok_iff.1 henter
    split at henter
    · next hnone =>
      cases henter
      refine ⟨hmembers, ⟨found, hfound, fun value hvalue => ?_⟩, allDistinct_nil⟩
      rw [hnone] at hvalue
      cases hvalue
    · next items hitems =>
      cases henter
      refine ⟨hmembers, ⟨found, hfound, fun value hvalue => ?_⟩, allDistinct_nil⟩
      rw [hitems] at hvalue
      exact ⟨items, (Option.some.inj hvalue).symm⟩
    · cases henter

theorem AllDistinct.add (h : draft.AllDistinct) {member : Member}
    (hvalue : Distinct member.value) (hadd : draft.add member = .ok draft') :
    draft'.AllDistinct := by
  obtain ⟨current, hput, heq⟩ := bind_eq_ok_iff.1 hadd
  cases heq
  exact ⟨h.members, h.header, allDistinct_put hvalue h.current hput⟩

end Draft

theorem tryAt_eq_ok_iff {α : Type} {place : List Char} {result : Except Refusal α} {a : α} :
    tryAt place result = .ok a ↔ result = .ok a := by
  cases result <;> simp [tryAt]

theorem allDistinct_readEntry {draft : Draft} {cs : List Char} {found : Parsed Draft}
    (hdraft : draft.AllDistinct) (h : readEntry draft cs = .ok found) : found.1.AllDistinct := by
  obtain ⟨⟨member, rest⟩, hmember, h⟩ := bind_eq_ok_iff.1 h
  obtain ⟨rest, -, h⟩ := bind_eq_ok_iff.1 h
  obtain ⟨draft', hadd, heq⟩ := bind_eq_ok_iff.1 h
  cases heq
  exact hdraft.add (distinct_readMember (distinct_readValue _) (settle_eq_ok_iff.1 hmember))
    (tryAt_eq_ok_iff.1 hadd)

theorem allDistinct_readHeader {draft : Draft} {cs : List Char} {found : Parsed Draft}
    (hdraft : draft.AllDistinct) (h : readHeader draft cs = .ok found) : found.1.AllDistinct := by
  have henter : ∀ (header : Header) (rest : List Char), (do
      let after ← skipLineRest rest
      return (← tryAt cs (draft.enter header (.between cs rest)), after)) = .ok found →
        found.1.AllDistinct := by
    intro header rest h
    obtain ⟨after, -, h⟩ := bind_eq_ok_iff.1 h
    obtain ⟨draft', henter, heq⟩ := bind_eq_ok_iff.1 h
    cases heq
    exact hdraft.enter (tryAt_eq_ok_iff.1 henter)
  unfold readHeader at h
  rw [within_eq_ok_iff] at h
  dsimp only at h
  split at h
  · obtain ⟨⟨key, rest⟩, -, h⟩ := bind_eq_ok_iff.1 h
    exact henter (.item key) rest h
  · obtain ⟨⟨key, rest⟩, -, h⟩ := bind_eq_ok_iff.1 h
    exact henter (.table key) rest h
  · cases h

theorem allDistinct_readLines {steps : Nat} {draft draft' : Draft} {cs : List Char}
    (hdraft : draft.AllDistinct) (h : readLines steps draft cs = .ok draft') :
    draft'.AllDistinct := by
  induction steps generalizing draft cs with
  | zero => cases h
  | succ steps ih =>
    unfold readLines at h
    split at h
    · cases h
      exact hdraft
    · split at h
      · obtain ⟨rest, -, h⟩ := bind_eq_ok_iff.1 h
        exact ih hdraft h
      split at h
      · obtain ⟨rest, -, h⟩ := bind_eq_ok_iff.1 h
        exact ih hdraft h
      dsimp only at h
      split at h
      · obtain ⟨⟨next, rest⟩, hline, h⟩ := bind_eq_ok_iff.1 h
        exact ih (allDistinct_readHeader hdraft hline) h
      · obtain ⟨⟨next, rest⟩, hline, h⟩ := bind_eq_ok_iff.1 h
        exact ih (allDistinct_readEntry hdraft hline) h

/-- No table of a document has two members of one name, and neither has the document itself. -/
theorem allDistinct_document {s : String} {members : List (String × Toml)}
    (h : document s = .ok members) : AllDistinct members := by
  obtain ⟨draft, hdraft, heq⟩ := bind_eq_ok_iff.1 h
  cases heq
  have hstart : ({} : Draft).AllDistinct := ⟨allDistinct_nil, trivial, allDistinct_nil⟩
  exact (allDistinct_readLines hstart hdraft).close

end Scoreboard.Toml
