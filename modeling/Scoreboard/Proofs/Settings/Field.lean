import Scoreboard.Proofs.Toml.Scalar
import Scoreboard.Settings.Codec

/-!
# The fields of settings

Settings and their sections are records that are read field by field: a member of a field's name is
read by itself, and any other member is passed over.

## Main definitions

- `CollapseStyle.fields`, `Presentation.fields` — the fields of the sections
- `Settings.fields` — the settings of a document and its sections
-/

namespace Scoreboard

namespace CollapseStyle

/-- The settings of the collapse style. -/
inductive Field where
  | expandLabel
  | shrinkLabel
  | expandedSpan
  | collapsedSpan

namespace Field

/-- The name of a setting. -/
def key : Field → String
  | expandLabel => "expand_label"
  | shrinkLabel => "shrink_label"
  | expandedSpan => "expanded_colspan"
  | collapsedSpan => "collapsed_colspan"

/-- What a setting is. -/
abbrev Datum : Field → Type
  | expandLabel | shrinkLabel => String
  | expandedSpan | collapsedSpan => UInt32

def get : (field : Field) → CollapseStyle → field.Datum
  | expandLabel, style => style.expandLabel
  | shrinkLabel, style => style.shrinkLabel
  | expandedSpan, style => style.expandedSpan
  | collapsedSpan, style => style.collapsedSpan

def put : (field : Field) → field.Datum → CollapseStyle → CollapseStyle
  | expandLabel, label, style => { style with expandLabel := label }
  | shrinkLabel, label, style => { style with shrinkLabel := label }
  | expandedSpan, span, style => { style with expandedSpan := span }
  | collapsedSpan, span, style => { style with collapsedSpan := span }

/-- The value has the type and the range of the setting and stands for this. -/
def Means : (field : Field) → Toml → field.Datum → Prop
  | expandLabel, value, label => value.IsText label
  | shrinkLabel, value, label => value.IsText label
  | expandedSpan, value, span => value.IsWhole span.toNat
  | collapsedSpan, value, span => value.IsWhole span.toNat

end Field

def fields : Fields (take Toml.view) where
  Field := Field
  key := Field.key
  Datum := Field.Datum
  get := Field.get
  put := Field.put
  Means := Field.Means
  ext {style style'} h := by
    have hexpand : style.expandLabel = style'.expandLabel := h .expandLabel
    have hshrink : style.shrinkLabel = style'.shrinkLabel := h .shrinkLabel
    have hexpanded : style.expandedSpan = style'.expandedSpan := h .expandedSpan
    have hcollapsed : style.collapsedSpan = style'.collapsedSpan := h .collapsedSpan
    obtain ⟨_, _, _, _⟩ := style
    subst hexpand hshrink hexpanded hcollapsed
    rfl
  get_put field _ _ := by cases field <;> rfl
  get_put_of_ne {field other} hne _ _ := by
    revert hne
    cases field <;> cases other <;> simp [Field.get, Field.put]
  take_key field style value _ := by
    cases field with
    | expandLabel => exact Toml.bind_text_iff (Field.expandLabel.put · style)
    | shrinkLabel => exact Toml.bind_text_iff (Field.shrinkLabel.put · style)
    | expandedSpan =>
      exact Toml.bind_whole_iff IntKind.spans_uint32 (Field.expandedSpan.put · style)
    | collapsedSpan =>
      exact Toml.bind_whole_iff IntKind.spans_uint32 (Field.collapsedSpan.put · style)
  take_other name hname style value := by
    unfold take
    split
    · exact absurd rfl (hname .expandLabel)
    · exact absurd rfl (hname .shrinkLabel)
    · exact absurd rfl (hname .expandedSpan)
    · exact absurd rfl (hname .collapsedSpan)
    · rfl

theorem decode_table (span : Toml.Span) (origin : TableOrigin) (inner : List (String × Toml)) :
    decode .ignored Toml.view (.table span origin inner) =
      inner.foldlM (fun style member => take Toml.view style member.1 member.2) {} := by
  show (inner.foldlM _ _ >>= _) = _
  exact bind_pure _

end CollapseStyle

namespace Presentation

/-- The settings of the presentation. -/
inductive Field where
  | rowHeight
  | progressEvery

namespace Field

/-- The name of a setting. -/
def key : Field → String
  | rowHeight => "row_height"
  | progressEvery => "progress_every_lines"

/-- What a setting is. -/
abbrev Datum : Field → Type
  | rowHeight => Binary binary32
  | progressEvery => UInt64

def get : (field : Field) → Presentation → field.Datum
  | rowHeight, presentation => presentation.rowHeight
  | progressEvery, presentation => presentation.progressEvery

def put : (field : Field) → field.Datum → Presentation → Presentation
  | rowHeight, height, presentation => { presentation with rowHeight := height }
  | progressEvery, lines, presentation => { presentation with progressEvery := lines }

/-- The value has the type and the range of the setting and stands for this. -/
def Means : (field : Field) → Toml → field.Datum → Prop
  | rowHeight, value, height => value.IsSingle height
  | progressEvery, value, lines => value.IsWhole lines.toNat

end Field

def fields : Fields (take Toml.view) where
  Field := Field
  key := Field.key
  Datum := Field.Datum
  get := Field.get
  put := Field.put
  Means := Field.Means
  ext {presentation presentation'} h := by
    have hheight : presentation.rowHeight = presentation'.rowHeight := h .rowHeight
    have hprogress : presentation.progressEvery = presentation'.progressEvery := h .progressEvery
    obtain ⟨_, _⟩ := presentation
    subst hheight hprogress
    rfl
  get_put field _ _ := by cases field <;> rfl
  get_put_of_ne {field other} hne _ _ := by
    revert hne
    cases field <;> cases other <;> simp [Field.get, Field.put]
  take_key field presentation value _ := by
    cases field with
    | rowHeight => exact Toml.bind_single_iff (Field.rowHeight.put · presentation)
    | progressEvery =>
      exact Toml.bind_whole_iff IntKind.spans_uint64 (Field.progressEvery.put · presentation)
  take_other name hname presentation value := by
    unfold take
    split
    · exact absurd rfl (hname .rowHeight)
    · exact absurd rfl (hname .progressEvery)
    · rfl

theorem decode_table (span : Toml.Span) (origin : TableOrigin) (inner : List (String × Toml)) :
    decode .ignored Toml.view (.table span origin inner) =
      inner.foldlM (fun presentation member => take Toml.view presentation member.1 member.2)
        {} := by
  show (inner.foldlM _ _ >>= _) = _
  exact bind_pure _

end Presentation

namespace Settings

/-- The settings of a document and its sections. -/
inductive Field where
  | cellOffset
  | referenceYear
  | collapse
  | presentation

namespace Field

/-- The name of a setting or a section. -/
def key : Field → String
  | cellOffset => "sort_cell_offset"
  | referenceYear => "reference_year"
  | collapse => "collapse"
  | presentation => "presentation"

/-- What a setting or a section is. -/
abbrev Datum : Field → Type
  | cellOffset => UInt64
  | referenceYear => Option Int32
  | collapse => CollapseStyle
  | presentation => Presentation

def get : (field : Field) → Settings → field.Datum
  | cellOffset, settings => settings.cellOffset
  | referenceYear, settings => settings.referenceYear
  | collapse, settings => settings.collapse
  | presentation, settings => settings.presentation

def put : (field : Field) → field.Datum → Settings → Settings
  | cellOffset, offset, settings => { settings with cellOffset := offset }
  | referenceYear, year, settings => { settings with referenceYear := year }
  | collapse, part, settings => { settings with collapse := part }
  | presentation, part, settings => { settings with presentation := part }

/-- The value has the type and the range of the setting or the section and stands for this. -/
def Means : (field : Field) → Toml → field.Datum → Prop
  | cellOffset, value, offset => value.IsWhole offset.toNat
  | referenceYear, value, year? => ∃ year, value.IsWhole year.toInt ∧ some year = year?
  | collapse, value, part => CollapseStyle.decode .ignored Toml.view value = .ok part
  | presentation, value, part => Presentation.decode .ignored Toml.view value = .ok part

end Field

def fields : Fields (take .ignored Toml.view) where
  Field := Field
  key := Field.key
  Datum := Field.Datum
  get := Field.get
  put := Field.put
  Means := Field.Means
  ext {settings settings'} h := by
    have hoffset : settings.cellOffset = settings'.cellOffset := h .cellOffset
    have hyear : settings.referenceYear = settings'.referenceYear := h .referenceYear
    have hcollapse : settings.collapse = settings'.collapse := h .collapse
    have hpresentation : settings.presentation = settings'.presentation := h .presentation
    obtain ⟨_, _, _, _⟩ := settings
    subst hoffset hyear hcollapse hpresentation
    rfl
  get_put field _ _ := by cases field <;> rfl
  get_put_of_ne {field other} hne _ _ := by
    revert hne
    cases field <;> cases other <;> simp [Field.get, Field.put]
  take_key field settings value settings' := by
    cases field with
    | cellOffset => exact Toml.bind_whole_iff IntKind.spans_size (Field.cellOffset.put · settings)
    | referenceYear =>
      refine (Toml.bind_whole_iff IntKind.spans_int32
        fun year => Field.referenceYear.put (some year) settings).trans ?_
      constructor
      · rintro ⟨year, hyear, hput⟩
        exact ⟨some year, ⟨year, hyear, rfl⟩, hput⟩
      · rintro ⟨_, ⟨year, hyear, rfl⟩, hput⟩
        exact ⟨year, hyear, hput⟩
    | collapse =>
      refine bind_eq_ok_iff.trans (exists_congr fun part => and_congr_right fun _ => ?_)
      exact ⟨Except.ok.inj, congrArg _⟩
    | presentation =>
      refine bind_eq_ok_iff.trans (exists_congr fun part => and_congr_right fun _ => ?_)
      exact ⟨Except.ok.inj, congrArg _⟩
  take_other name hname settings value := by
    unfold take
    split
    · exact absurd rfl (hname .cellOffset)
    · exact absurd rfl (hname .referenceYear)
    · exact absurd rfl (hname .collapse)
    · exact absurd rfl (hname .presentation)
    · rfl

theorem ofDocument_eq (members : List (String × Toml)) :
    ofDocument members =
      members.foldlM (fun settings member => take .ignored Toml.view settings member.1 member.2)
        {} := by
  show (members.foldlM _ _ >>= _) = _
  exact bind_pure _

end Settings

end Scoreboard
