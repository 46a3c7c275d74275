import Scoreboard.Codec.Scalar
import Scoreboard.Json.Basic
import Scoreboard.Settings.Basic
import Scoreboard.Toml.Document

/-!
# Settings as values

Every setting has a default, so a record of settings is read by changing the defaults one field at a
time.

## Main definitions

- `CollapseStyle.decode`, `Presentation.decode`, `Settings.decode` — settings read from a value
- `Settings.parse` — the settings of a document

## Design notes

The decoders work for every format with lists and objects; `view` shows a value one layer deep.
-/

namespace Scoreboard

variable {V : Type}

namespace CollapseStyle

/-- The fields of the collapse style. -/
def shape (surplus : Surplus) : Shape where
  name := "struct CollapseConfig"
  fields := ["expand_label", "shrink_label", "expanded_colspan", "collapsed_colspan"]
  surplus := surplus

/-- The style with one field changed. -/
def take (view : V → View V) (style : CollapseStyle) (field : String) (value : V) :
    Except (Misfit V) CollapseStyle :=
  match field with
  | "expand_label" => do return { style with expandLabel := ← blame value (view value).toText }
  | "shrink_label" => do return { style with shrinkLabel := ← blame value (view value).toText }
  | "expanded_colspan" => do
    let span ← blame value ((view value).toWhole .uint32)
    return { style with expandedSpan := UInt32.ofNat span.toNat }
  | "collapsed_colspan" => do
    let span ← blame value ((view value).toWhole .uint32)
    return { style with collapsedSpan := UInt32.ofNat span.toNat }
  | _ => return style

/-- The style that a value describes. -/
def decode (surplus : Surplus) (view : V → View V) (value : V) : Except (Misfit V) CollapseStyle :=
  (shape surplus).decodeWith (Misfit.mk value) {} (take view) (fun _ style => .ok style)
    (view value)

end CollapseStyle

namespace Presentation

/-- The fields of the presentation. -/
def shape (surplus : Surplus) : Shape where
  name := "struct PresentationConfig"
  fields := ["row_height", "progress_every_lines"]
  surplus := surplus

/-- The presentation with one field changed. -/
def take (view : V → View V) (presentation : Presentation) (field : String) (value : V) :
    Except (Misfit V) Presentation :=
  match field with
  | "row_height" => do
    return { presentation with rowHeight := ← blame value (view value).toSingle }
  | "progress_every_lines" => do
    let every ← blame value ((view value).toWhole .uint64)
    return { presentation with progressEvery := UInt64.ofNat every.toNat }
  | _ => return presentation

/-- The presentation that a value describes. -/
def decode (surplus : Surplus) (view : V → View V) (value : V) : Except (Misfit V) Presentation :=
  (shape surplus).decodeWith (Misfit.mk value) {} (take view)
    (fun _ presentation => .ok presentation) (view value)

end Presentation

namespace Settings

/-- The fields of the settings. -/
def shape (surplus : Surplus) : Shape where
  name := "struct GridConfig"
  fields := ["sort_cell_offset", "reference_year", "collapse", "presentation"]
  surplus := surplus

/-- The settings with one field changed. -/
def take (surplus : Surplus) (view : V → View V) (settings : Settings) (field : String)
    (value : V) : Except (Misfit V) Settings :=
  match field with
  | "sort_cell_offset" => do
    let offset ← blame value ((view value).toWhole .size)
    return { settings with cellOffset := UInt64.ofNat offset.toNat }
  | "reference_year" => do
    let year ← blame value ((view value).toWhole .int32)
    return { settings with referenceYear := some (Int32.ofInt year) }
  | "collapse" => do
    return { settings with collapse := ← CollapseStyle.decode surplus view value }
  | "presentation" => do
    return { settings with presentation := ← Presentation.decode surplus view value }
  | _ => return settings

/-- The settings that a value describes. -/
def decode (surplus : Surplus) (view : V → View V) (value : V) : Except (Misfit V) Settings :=
  (shape surplus).decodeWith (Misfit.mk value) {} (take surplus view)
    (fun _ settings => .ok settings) (view value)

/-- The settings that the members of a document describe. -/
def ofDocument (members : List (String × Toml)) : Except (Misfit Toml) Settings :=
  decode .ignored Toml.view (.table default .header members)

end Settings

/-- Why a document holds no settings. -/
inductive SettingsError where
  /-- It is not well-formed. -/
  | malformed (problem : Toml.Problem)
  /-- A value does not fit. -/
  | value (span : Toml.Span) (error : DecodeError)
  deriving DecidableEq

namespace SettingsError

/-- The wording of why a document holds no settings. -/
def message : SettingsError → String
  | malformed problem => problem.message
  | value _ error => error.message RealStyle.positional

/-- Where the document is at fault. -/
def span : SettingsError → Toml.Span
  | malformed problem => problem.span
  | value span _ => span

/-- The wording, with the line of the document that is at fault. -/
def describe (document : String) (error : SettingsError) : String :=
  Toml.excerpt document error.span error.message

end SettingsError

/-- The settings of a document. -/
def Settings.parse (document : String) : Except SettingsError Settings := do
  let members ← (Toml.document document).mapError .malformed
  (ofDocument members).mapError fun misfit => .value misfit.value.span misfit.error

end Scoreboard
