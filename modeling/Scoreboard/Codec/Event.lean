import Scoreboard.Codec.Page
import Scoreboard.Grid.Store

/-!
# Interactions and drawings in JSON

## Main definitions

- `Event.ofJson`, `Event.toJson` — interactions
- `Selection.toJson`, `GroupView.toJson`, `SortReport.toJson`, `Render.toJson`, … — what to draw

## Design notes

An interaction is an object that names its kind among its members, or a list that begins with it.
-/

namespace Scoreboard

/-- The kinds of interaction. -/
inductive EventKind where
  | headerClick
  | participantClick
  | participantReset
  | roundSelect
  | roundReset
  | roundToggle
  deriving DecidableEq

namespace EventKind

/-- The names of the kinds. -/
def choices : List (String × EventKind) := [
  ("headerClick", headerClick),
  ("participantClick", participantClick),
  ("participantReset", participantReset),
  ("roundSelect", roundSelect),
  ("roundReset", roundReset),
  ("roundToggle", roundToggle)]

/-- The kind of a name. -/
def ofJson : Json → Except DecodeError EventKind
  | .text name => chooseFrom choices name
  | json => .error (.wrongType json.found .choiceName)

end EventKind

namespace Event

/-- The fields of a click on a header. -/
def headerShape : Shape where
  name := "struct variant GridEvent::HeaderClick"
  fields := ["tableId", "column"]
  surplus := .counted

/-- The table and the column of a click read so far. -/
structure HeaderParts where
  tableId : Option String := none
  column : Option UInt64 := none

/-- Adds one field of a click on a header. -/
def HeaderParts.take (parts : HeaderParts) (field : String) (json : Json) :
    Except DecodeError HeaderParts :=
  match field with
  | "tableId" => do return { parts with tableId := some (← json.toText) }
  | "column" => do
    let column ← json.toWhole .size
    return { parts with column := some (UInt64.ofNat column.toNat) }
  | _ => return parts

/-- The click of its fields. -/
def HeaderParts.finish (form : Form) (parts : HeaderParts) : Except DecodeError Event := do
  return .headerClick (← headerShape.required form "tableId" parts.tableId)
    (← headerShape.required form "column" parts.column)

/-- The fields of an interaction that has one. -/
def singleShape (name field : String) : Shape where
  name := "struct variant GridEvent::" ++ name
  fields := [field]
  surplus := .counted

/-- An interaction with one field. -/
def ofSingle {α : Type} (name field : String) (decode : Json → Except DecodeError α)
    (make : α → Event) (view : View Json) : Except DecodeError Event :=
  let shape := singleShape name field
  shape.decode none
    (fun part other json => if other = field then (decode json).map some else .ok part)
    (fun form part => (shape.required form field part).map make) view

/-- An interaction without fields. -/
def ofNothing (event : Event) : View Json → Except DecodeError Event
  | .items (item :: items) => .error (.wrongLength (item :: items).length (.exactly 0))
  | _ => .ok event

/-- An interaction of a kind. -/
def ofFields : EventKind → View Json → Except DecodeError Event
  | .headerClick => headerShape.decode {} HeaderParts.take HeaderParts.finish
  | .participantClick =>
    ofSingle "ParticipantClick" "participantId" ParticipantId.ofJson participantClick
  | .participantReset => ofNothing participantReset
  | .roundSelect => ofSingle "RoundSelect" "roundId" RoundId.ofJson roundSelect
  | .roundReset => ofNothing roundReset
  | .roundToggle => ofSingle "RoundToggle" "roundId" RoundId.ofJson roundToggle

/-- An interaction read from a value. -/
def ofJson : Json → Except DecodeError Event
  | .object members =>
    match (Json.object members).member? "kind" with
    | none => .error (.missing "kind")
    | some kind => do ofFields (← EventKind.ofJson kind) (.members members)
  | .array [] => .error (.missing "kind")
  | .array (kind :: fields) => do ofFields (← EventKind.ofJson kind) (.items fields)
  | json => .error (.wrongType json.found (.tagged "GridEvent"))

/-- The value of an interaction. -/
def toJson : Event → Json
  | headerClick tableId column => .object [
      ("kind", .text "headerClick"), ("tableId", .text tableId), ("column", .ofNat column.toNat)]
  | participantClick participant => .object [
      ("kind", .text "participantClick"), ("participantId", participant.toJson)]
  | participantReset => .object [("kind", .text "participantReset")]
  | roundSelect round => .object [("kind", .text "roundSelect"), ("roundId", round.toJson)]
  | roundReset => .object [("kind", .text "roundReset")]
  | roundToggle round => .object [("kind", .text "roundToggle"), ("roundId", round.toJson)]

end Event

/-- The value of a selection. -/
def Selection.toJson (selection : Selection) : Json :=
  .object [
    ("active_participant", .ofOption ParticipantId.toJson selection.participant),
    ("active_round", .ofOption RoundId.toJson selection.round)]

/-- The value of a round header. -/
def GroupView.toJson (view : GroupView) : Json :=
  .object [
    ("round", view.round.toJson),
    ("collapsed", .bool view.collapsed),
    ("colspan", .ofNat view.span.toNat),
    ("label", .text view.label),
    ("secondary_headers_visible", .bool view.secondaryShown)]

/-- The value of an indicator. -/
def Indicator.toJson (indicator : Indicator) : Json :=
  .object [("column", .ofNat indicator.column), ("direction", indicator.direction.toJson)]

/-- The value of the report of a sort. -/
def SortReport.toJson (report : SortReport) : Json :=
  .object [
    ("table_id", .text report.tableId),
    ("column", .ofNat report.column),
    ("requested", report.requested.toJson),
    ("applied", report.applied.toJson),
    ("auto_flipped", .bool report.flipped),
    ("swaps", .ofNat report.swaps),
    ("before_order", .ofList .text report.before),
    ("after_order", .ofList .text report.after)]

/-- The value of the rows of a table. -/
def RowOrder.toJson (order : RowOrder) : Json :=
  .object [("table_id", .text order.tableId), ("row_ids", .ofList .text order.rowIds)]

/-- The value of what to draw. Things that print alike are all listed. -/
def Render.toJson (render : Render) : Json :=
  .object [
    ("row_orders", .ofList RowOrder.toJson render.rowOrders),
    ("visibility", .object <|
      render.visibility.entries.map fun entry => (entry.1.text, .bool entry.2)),
    ("sort_indicators", .object <|
      render.indicators.entries.map fun entry => (entry.1, entry.2.toJson)),
    ("collapse", .ofList GroupView.toJson render.groups),
    ("selection", render.selection.toJson),
    ("sort", .ofOption SortReport.toJson render.sort)]

end Scoreboard
