import Scoreboard.Proofs.Settings.Field
import Scoreboard.Proofs.Toml.Distinct
import Scoreboard.Settings.File

/-!
# Settings that are given

A document gives some of the settings, some of them in sections, and the others keep their defaults.
Whatever else it holds plays no part. A value that does not fit its setting is refused and never
replaced by the default.

## Main definitions

- `Setting` — the settings that a document may give, each by itself
- `Setting.value?`, `Setting.Means` — the value that is given for a setting, and what it stands for
- `Setting.Given` — a setting is what a document gives for it, or else its default
- `Settings.Sectioned` — the sections of a document are tables
- `Settings.known` — the members of a document that play a part

## Main statements

- `Settings.ofDocument_eq_ok_iff` — settings are read from a document if and only if each of them is
  what the document gives for it, or else its default
- `Settings.ofDocument_known` — members of unknown names play no part
- `Settings.parse_given` — the settings of a text, and the ways of giving none
-/

namespace Scoreboard

namespace Toml

def IsTable (value : Toml) : Prop :=
  ∃ span origin inner, value = .table span origin inner

/-- The members of a section; none, if there is no such section. -/
def sectionOf (members : List (String × Toml)) (name : String) : List (String × Toml) :=
  match lookup? members name with
  | some (.table _ _ inner) => inner
  | _ => []

variable {members : List (String × Toml)} {name : String}

theorem AllDistinct.sectionOf (h : AllDistinct members) (name : String) :
    AllDistinct (sectionOf members name) := by
  unfold Toml.sectionOf
  split
  · next hfound => exact distinct_table_iff.1 (h.lookup? hfound)
  · exact allDistinct_nil

/-- A section that is missing is read like an empty one. -/
theorem read_sectionOf {σ : Type} {take : σ → String → Toml → Except (Misfit Toml) σ}
    {decode : Toml → Except (Misfit Toml) σ} {start record : σ}
    (hdecode : ∀ span origin inner, decode (.table span origin inner) =
      inner.foldlM (fun state member => take state member.1 member.2) start)
    (htable : ∀ value, lookup? members name = some value → value.IsTable) :
    GivenBy (fun value record => decode value = .ok record) start (lookup? members name) record ↔
      (sectionOf members name).foldlM (fun state member => take state member.1 member.2) start =
        .ok record := by
  unfold sectionOf
  cases hvalue : lookup? members name with
  | none => exact ⟨fun h => congrArg Except.ok h.symm, fun h => (Except.ok.inj h).symm⟩
  | some value =>
    obtain ⟨span, origin, inner, rfl⟩ := htable value hvalue
    dsimp only [GivenBy]
    rw [hdecode]

end Toml

/-- The settings that a document may give, each by itself. -/
inductive Setting where
  | cellOffset
  | referenceYear
  | collapse (field : CollapseStyle.Field)
  | presentation (field : Presentation.Field)

namespace Setting

/-- What a setting is. -/
abbrev Datum : Setting → Type
  | cellOffset => UInt64
  | referenceYear => Option Int32
  | collapse field => field.Datum
  | presentation field => field.Datum

def get : (setting : Setting) → Settings → setting.Datum
  | cellOffset, settings => settings.cellOffset
  | referenceYear, settings => settings.referenceYear
  | collapse field, settings => field.get settings.collapse
  | presentation field, settings => field.get settings.presentation

/-- The value that a document gives for the setting. -/
def value? (members : List (String × Toml)) : Setting → Option Toml
  | cellOffset => Toml.lookup? members "sort_cell_offset"
  | referenceYear => Toml.lookup? members "reference_year"
  | collapse field => Toml.lookup? (Toml.sectionOf members "collapse") field.key
  | presentation field => Toml.lookup? (Toml.sectionOf members "presentation") field.key

/-- The value has the type and the range of the setting and stands for this. -/
def Means : (setting : Setting) → Toml → setting.Datum → Prop
  | cellOffset, value, offset => value.IsWhole offset.toNat
  | referenceYear, value, year? => ∃ year, value.IsWhole year.toInt ∧ some year = year?
  | collapse field, value, datum => field.Means value datum
  | presentation field, value, datum => field.Means value datum

/-- The value has the type and the range of the setting. -/
def Fits : Setting → Toml → Prop
  | cellOffset, value => value.IsWholeOf .size
  | referenceYear, value => value.IsWholeOf .int32
  | collapse .expandLabel, value | collapse .shrinkLabel, value => ∃ label, value.IsText label
  | collapse .expandedSpan, value | collapse .collapsedSpan, value => value.IsWholeOf .uint32
  | presentation .rowHeight, value => value.IsNumber
  | presentation .progressEvery, value => value.IsWholeOf .uint64

theorem fits_iff (setting : Setting) {value : Toml} :
    setting.Fits value ↔ ∃ datum, setting.Means value datum := by
  cases setting with
  | cellOffset => exact IntKind.spans_size.exists_isWhole_iff.symm
  | referenceYear =>
    refine IntKind.spans_int32.exists_isWhole_iff.symm.trans ?_
    constructor
    · rintro ⟨year, hyear⟩
      exact ⟨some year, year, hyear, rfl⟩
    · rintro ⟨_, year, hyear, rfl⟩
      exact ⟨year, hyear⟩
  | collapse field =>
    cases field with
    | expandLabel | shrinkLabel => exact Iff.rfl
    | expandedSpan | collapsedSpan => exact IntKind.spans_uint32.exists_isWhole_iff.symm
  | presentation field =>
    cases field with
    | rowHeight => exact Toml.exists_isSingle_iff.symm
    | progressEvery => exact IntKind.spans_uint64.exists_isWhole_iff.symm

/-- A value stands for the same wherever it is written. -/
theorem means_congr (setting : Setting) {value value' : Toml} (h : value.found = value'.found)
    {datum : setting.Datum} : setting.Means value datum ↔ setting.Means value' datum := by
  have hwhole : ∀ n, value.IsWhole n ↔ value'.IsWhole n := fun n => by
    rw [Toml.isWhole_iff_found, Toml.isWhole_iff_found, h]
  have htext : ∀ s, value.IsText s ↔ value'.IsText s := fun s => by
    rw [Toml.isText_iff_found, Toml.isText_iff_found, h]
  cases setting with
  | cellOffset => exact hwhole _
  | referenceYear => exact exists_congr fun year => and_congr_left' (hwhole _)
  | collapse field =>
    cases field with
    | expandLabel | shrinkLabel => exact htext _
    | expandedSpan | collapsedSpan => exact hwhole _
  | presentation field =>
    cases field with
    | rowHeight => exact Toml.isSingle_congr h
    | progressEvery => exact hwhole _

/-- The setting is what the document gives for it, or else its default. -/
def Given (setting : Setting) (members : List (String × Toml)) (settings : Settings) : Prop :=
  GivenBy setting.Means (setting.get {}) (setting.value? members) (setting.get settings)

theorem given_congr {setting : Setting} {members members' : List (String × Toml)}
    (h : (setting.value? members').map Toml.found = (setting.value? members).map Toml.found)
    {settings : Settings} : setting.Given members' settings ↔ setting.Given members settings := by
  unfold Given
  cases hvalue : setting.value? members with
  | none =>
    rw [hvalue, Option.map_none, Option.map_eq_none_iff] at h
    rw [h]
  | some value =>
    rw [hvalue, Option.map_some, Option.map_eq_some_iff] at h
    obtain ⟨value', hvalue', hfound⟩ := h
    rw [hvalue']
    exact setting.means_congr hfound

end Setting

namespace Settings

variable {members : List (String × Toml)}

/-- The sections that the document has are tables. -/
structure Sectioned (members : List (String × Toml)) : Prop where
  collapse : ∀ value, Toml.lookup? members "collapse" = some value → value.IsTable
  presentation : ∀ value, Toml.lookup? members "presentation" = some value → value.IsTable

/-- Settings are read if and only if each of them is what is given for it, or else its default. -/
theorem ofDocument_eq_ok_iff (hmembers : Toml.AllDistinct members) (hsections : Sectioned members)
    {settings : Settings} :
    ofDocument members = .ok settings ↔ ∀ setting : Setting, setting.Given members settings := by
  have hstyle : fields.Given .collapse members {} settings ↔
      ∀ field, CollapseStyle.fields.Given field (Toml.sectionOf members "collapse") {}
        settings.collapse := by
    rw [← CollapseStyle.fields.foldlM_eq_ok_iff (hmembers.sectionOf "collapse").nodup]
    exact Toml.read_sectionOf CollapseStyle.decode_table hsections.collapse
  have hpage : fields.Given .presentation members {} settings ↔
      ∀ field, Presentation.fields.Given field (Toml.sectionOf members "presentation") {}
        settings.presentation := by
    rw [← Presentation.fields.foldlM_eq_ok_iff (hmembers.sectionOf "presentation").nodup]
    exact Toml.read_sectionOf Presentation.decode_table hsections.presentation
  rw [ofDocument_eq, fields.foldlM_eq_ok_iff hmembers.nodup]
  constructor
  · intro hfields setting
    cases setting with
    | cellOffset => exact hfields .cellOffset
    | referenceYear => exact hfields .referenceYear
    | collapse field => exact hstyle.1 (hfields .collapse) field
    | presentation field => exact hpage.1 (hfields .presentation) field
  · intro hgiven field
    cases field with
    | cellOffset => exact hgiven .cellOffset
    | referenceYear => exact hgiven .referenceYear
    | collapse => exact hstyle.2 fun field => hgiven (.collapse field)
    | presentation => exact hpage.2 fun field => hgiven (.presentation field)

theorem parse_eq {document : String} {members : List (String × Toml)}
    (hdocument : Toml.document document = .ok members) :
    parse document =
      (ofDocument members).mapError fun misfit => .value misfit.value.span misfit.error := by
  unfold parse
  rw [hdocument]
  rfl

theorem parse_eq_ok_iff {document : String} (hdocument : Toml.document document = .ok members)
    (hsections : Sectioned members) {settings : Settings} :
    parse document = .ok settings ↔ ∀ setting : Setting, setting.Given members settings := by
  rw [parse_eq hdocument, mapError_eq_ok_iff]
  exact ofDocument_eq_ok_iff (Toml.allDistinct_document hdocument) hsections

/-- Settings made of one datum for each. -/
def ofData (data : (setting : Setting) → setting.Datum) : Settings where
  cellOffset := data .cellOffset
  referenceYear := data .referenceYear
  collapse := {
    expandLabel := data (.collapse .expandLabel)
    shrinkLabel := data (.collapse .shrinkLabel)
    expandedSpan := data (.collapse .expandedSpan)
    collapsedSpan := data (.collapse .collapsedSpan) }
  presentation := {
    rowHeight := data (.presentation .rowHeight)
    progressEvery := data (.presentation .progressEvery) }

theorem get_ofData (data : (setting : Setting) → setting.Datum) (setting : Setting) :
    setting.get (ofData data) = data setting := by
  cases setting with
  | cellOffset | referenceYear => rfl
  | collapse field => cases field <;> rfl
  | presentation field => cases field <;> rfl

theorem exists_given_iff : (∃ settings, ∀ setting : Setting, setting.Given members settings) ↔
    ∀ setting : Setting, ∀ value, setting.value? members = some value → setting.Fits value := by
  constructor
  · rintro ⟨settings, hgiven⟩ setting value hvalue
    have hmeans := hgiven setting
    rw [Setting.Given, hvalue] at hmeans
    exact setting.fits_iff.2 ⟨_, hmeans⟩
  · intro hfits
    have hdatum : ∀ setting : Setting, ∃ datum,
        GivenBy setting.Means (setting.get {}) (setting.value? members) datum := by
      intro setting
      cases hvalue : setting.value? members with
      | none => exact ⟨_, rfl⟩
      | some value => exact setting.fits_iff.1 (hfits setting value hvalue)
    -- What is given for one setting leaves the others free, so settings are made of one datum each.
    choose data hdata using hdatum
    refine ⟨ofData data, fun setting => ?_⟩
    rw [Setting.Given, get_ofData]
    exact hdata setting

/-- The names of the settings of a document and of its sections. -/
def names : List String :=
  ["sort_cell_offset", "reference_year", "collapse", "presentation"]

/-- The names of the settings of a section. -/
def sectionNames : String → List String
  | "collapse" => ["expand_label", "shrink_label", "expanded_colspan", "collapsed_colspan"]
  | "presentation" => ["row_height", "progress_every_lines"]
  | _ => []

/-- A member without the members that play no part, if it is a section. -/
def knownMember (member : String × Toml) : String × Toml :=
  match member with
  | (name, .table span origin inner) =>
    if name = "collapse" ∨ name = "presentation" then
      (name, .table span origin (inner.filter fun member => member.1 ∈ sectionNames name))
    else (name, .table span origin inner)
  | member => member

/-- The members that play a part. -/
def known (members : List (String × Toml)) : List (String × Toml) :=
  (members.filter fun member => member.1 ∈ names).map knownMember

theorem take_knownMember (settings : Settings) (member : String × Toml) :
    take .ignored Toml.view settings (knownMember member).1 (knownMember member).2 =
      take .ignored Toml.view settings member.1 member.2 := by
  unfold knownMember
  split
  · next name span origin inner =>
    split
    · next hname =>
      obtain rfl | rfl := hname
      · have hdecode : CollapseStyle.decode .ignored Toml.view (.table span origin
            (inner.filter fun member => member.1 ∈ sectionNames "collapse")) =
            CollapseStyle.decode .ignored Toml.view (.table span origin inner) := by
          rw [CollapseStyle.decode_table, CollapseStyle.decode_table]
          exact CollapseStyle.fields.foldlM_filter (fun field => by cases field <;> decide) inner {}
        show (CollapseStyle.decode _ _ _ >>= _) = (CollapseStyle.decode _ _ _ >>= _)
        rw [hdecode]
      · have hdecode : Presentation.decode .ignored Toml.view (.table span origin
            (inner.filter fun member => member.1 ∈ sectionNames "presentation")) =
            Presentation.decode .ignored Toml.view (.table span origin inner) := by
          rw [Presentation.decode_table, Presentation.decode_table]
          exact Presentation.fields.foldlM_filter (fun field => by cases field <;> decide) inner {}
        show (Presentation.decode _ _ _ >>= _) = (Presentation.decode _ _ _ >>= _)
        rw [hdecode]
    · rfl
  · rfl

/-- Members of unknown names change nothing, neither the settings nor why there are none. -/
theorem ofDocument_known (members : List (String × Toml)) :
    ofDocument (known members) = ofDocument members := by
  rw [ofDocument_eq, ofDocument_eq, known, List.foldlM_map]
  simp only [take_knownMember]
  exact fields.foldlM_filter (fun field => by cases field <;> decide) members {}

/-- The member is a section without members. -/
def IsEmptySection (member : String × Toml) : Prop :=
  (member.1 = "collapse" ∨ member.1 = "presentation") ∧
    ∃ span origin, member.2 = .table span origin []

theorem value?_of_emptySections (hempty : ∀ member ∈ members, IsEmptySection member)
    (setting : Setting) : setting.value? members = none := by
  have hname : ∀ name, name ≠ "collapse" → name ≠ "presentation" →
      Toml.lookup? members name = none := by
    intro name hcollapse hpresentation
    cases hvalue : Toml.lookup? members name with
    | none => rfl
    | some value =>
      obtain ⟨rfl | rfl, -⟩ := hempty _ (mem_of_valueOf? hvalue)
      · exact absurd rfl hcollapse
      · exact absurd rfl hpresentation
  have hsection : ∀ name, Toml.sectionOf members name = [] := by
    intro name
    unfold Toml.sectionOf
    split
    · next hvalue =>
      obtain ⟨-, span, origin, htable⟩ := hempty _ (mem_of_valueOf? hvalue)
      cases htable
      rfl
    · rfl
  cases setting with
  | cellOffset => exact hname _ (by decide) (by decide)
  | referenceYear => exact hname _ (by decide) (by decide)
  | collapse field =>
    show Toml.lookup? (Toml.sectionOf members "collapse") field.key = none
    rw [hsection]
    rfl
  | presentation field =>
    show Toml.lookup? (Toml.sectionOf members "presentation") field.key = none
    rw [hsection]
    rfl

/-- A document whose sections are tables holds settings if and only if everything that it gives for
one has its type and its range. Each setting is then what the document gives for it, or else its
default. Whatever else the document holds plays no part, and neither does where the settings stand;
and why a document holds no settings does not depend on anything else either. A document of empty
sections, an empty one and no file at all give the defaults. -/
theorem parse_given {document : String} (hdocument : Toml.document document = .ok members)
    (hsections : Sectioned members) :
    ((∃ settings, parse document = .ok settings) ↔
        ∀ setting : Setting, ∀ value, setting.value? members = some value →
          setting.Fits value) ∧
      (∀ settings, parse document = .ok settings ↔
        ∀ setting : Setting, setting.Given members settings) ∧
      (∀ document' members', Toml.document document' = .ok members' → Sectioned members' →
        (∀ setting : Setting,
          (setting.value? members').map Toml.found = (setting.value? members).map Toml.found) →
        ∀ settings, parse document' = .ok settings ↔ parse document = .ok settings) ∧
      (∀ document' members', Toml.document document' = .ok members' →
        known members' = known members → parse document' = parse document) ∧
      ((∀ member ∈ members, IsEmptySection member) → parse document = .ok {}) ∧
      parse "" = .ok {} ∧
      ∀ (files : FileTree) (folder : String), files.node? (path folder) = none →
        load files folder = .ok {} := by
  refine ⟨?_, fun _ => parse_eq_ok_iff hdocument hsections, ?_, ?_, ?_, rfl, ?_⟩
  · rw [← exists_given_iff]
    exact exists_congr fun _ => parse_eq_ok_iff hdocument hsections
  · intro document' members' hdocument' hsections' hfound settings
    rw [parse_eq_ok_iff hdocument' hsections', parse_eq_ok_iff hdocument hsections]
    exact forall_congr' fun setting => Setting.given_congr (hfound setting)
  · intro document' members' hdocument' hknown
    rw [parse_eq hdocument', parse_eq hdocument, ← ofDocument_known, hknown, ofDocument_known]
  · intro hempty
    refine (parse_eq_ok_iff hdocument hsections).2 fun setting => ?_
    rw [Setting.Given, value?_of_emptySections hempty]
    rfl
  · intro files folder hnode
    rw [load, hnode]

theorem parse_given_section : ∃ members,
    Toml.document "reference_year = 2024\n[collapse]\nexpand_label = \"more\"\n" = .ok members ∧
      parse "reference_year = 2024\n[collapse]\nexpand_label = \"more\"\n" =
        .ok { referenceYear := some 2024, collapse := { expandLabel := "more" } } := by
  refine ⟨_, rfl, ?_⟩
  refine ((parse_given rfl ⟨?_, ?_⟩).2.1 _).2 fun setting => ?_
  · rintro value ⟨⟩
    exact ⟨_, _, _, rfl⟩
  · rintro value ⟨⟩
  · cases setting with
    | cellOffset => rfl
    | referenceYear => exact ⟨2024, ⟨_, rfl⟩, rfl⟩
    | collapse field =>
      cases field with
      | expandLabel => exact ⟨_, rfl⟩
      | shrinkLabel | expandedSpan | collapsedSpan => rfl
    | presentation field => cases field <;> rfl

end Settings

end Scoreboard
