import Scoreboard.Codec.Basic

/-!
# Pages in JSON

Each part of a page is read from a value and written as one, the two functions side by side. Written
records hold all their fields in order.

## Main definitions

- `Cell.ofJson`, `Row.ofJson`, `Table.ofJson`, `Element.ofJson`, `Page.ofJson`, … — reading
- `Cell.toJson`, `Row.toJson`, `Table.toJson`, `Element.toJson`, `Page.toJson`, … — writing

## Design notes

A cell is written as an object and also read from a plain text. It is part of a choice of forms, so
whatever is wrong with it, the refusal says only that it has neither form.
-/

namespace Scoreboard

namespace Cell

/-- The fields of a cell read so far. -/
structure Parts where
  text : Option String := none
  round : Option (Option RoundId) := none
  player : Option (Option ParticipantId) := none
  /-- Whether it is hideable. -/
  hideable : Option Bool := none

/-- The fields of a cell. -/
def shape : Shape where
  name := "CellRepr"
  fields := ["text", "round", "player", "hideable"]

/-- Adds one field. -/
def Parts.take (parts : Parts) (field : String) (json : Json) : Except DecodeError Parts :=
  match field with
  | "text" => do return { parts with text := some (← json.toText) }
  | "round" => do return { parts with round := some (← json.toOption RoundId.ofJson) }
  | "player" => do return { parts with player := some (← json.toOption ParticipantId.ofJson) }
  | "hideable" => do return { parts with hideable := some (← json.toBool) }
  | _ => return parts

/-- The cell of its fields. -/
def Parts.finish (form : Form) (parts : Parts) : Except DecodeError Cell := do
  return {
    text := ← shape.required form "text" parts.text
    round := parts.round.getD none
    player := parts.player.getD none
    hideable := parts.hideable.getD false }

/-- A cell read from a value. -/
def ofJson : Json → Except DecodeError Cell
  | .text s => .ok (.plain s)
  | .object members =>
    match shape.decode {} Parts.take Parts.finish (.members members) with
    | .ok cell => .ok cell
    | .error _ => .error (.noForm shape.name)
  | _ => .error (.noForm shape.name)

/-- The value of a cell. -/
def toJson (cell : Cell) : Json :=
  .object [
    ("text", .text cell.text),
    ("round", .ofOption RoundId.toJson cell.round),
    ("player", .ofOption ParticipantId.toJson cell.player),
    ("hideable", .bool cell.hideable)]

end Cell

namespace Row

/-- The fields of a row read so far. -/
structure Parts where
  id : Option String := none
  player : Option (Option ParticipantId) := none
  round : Option (Option RoundId) := none
  cells : Option (List Cell) := none

/-- The fields of a row. -/
def shape : Shape where
  name := "struct Row"
  fields := ["id", "player", "round", "cells"]

/-- Adds one field. -/
def Parts.take (parts : Parts) (field : String) (json : Json) : Except DecodeError Parts :=
  match field with
  | "id" => do return { parts with id := some (← json.toText) }
  | "player" => do return { parts with player := some (← json.toOption ParticipantId.ofJson) }
  | "round" => do return { parts with round := some (← json.toOption RoundId.ofJson) }
  | "cells" => do return { parts with cells := some (← json.toList Cell.ofJson) }
  | _ => return parts

/-- The row of its fields. -/
def Parts.finish (form : Form) (parts : Parts) : Except DecodeError Row := do
  return {
    id := ← shape.required form "id" parts.id
    player := parts.player.getD none
    round := parts.round.getD none
    cells := ← shape.required form "cells" parts.cells }

/-- A row read from a value. -/
def ofJson (json : Json) : Except DecodeError Row :=
  shape.decode {} Parts.take Parts.finish json.view

/-- The members of the object that a row is written as. -/
def toMembers (row : Row) : List (String × Json) := [
  ("id", .text row.id),
  ("player", .ofOption ParticipantId.toJson row.player),
  ("round", .ofOption RoundId.toJson row.round),
  ("cells", .ofList Cell.toJson row.cells)]

/-- The value of a row. -/
def toJson (row : Row) : Json :=
  .object row.toMembers

end Row

namespace Column

/-- The fields of a column read so far. -/
structure Parts where
  label : Option String := none
  round : Option (Option RoundId) := none
  /-- Whether its header is hideable. -/
  hideable : Option Bool := none

/-- The fields of a column. -/
def shape : Shape where
  name := "struct ColumnHeader"
  fields := ["label", "round", "hideable"]

/-- Adds one field. -/
def Parts.take (parts : Parts) (field : String) (json : Json) : Except DecodeError Parts :=
  match field with
  | "label" => do return { parts with label := some (← json.toText) }
  | "round" => do return { parts with round := some (← json.toOption RoundId.ofJson) }
  | "hideable" => do return { parts with hideable := some (← json.toBool) }
  | _ => return parts

/-- The column of its fields. -/
def Parts.finish (form : Form) (parts : Parts) : Except DecodeError Column := do
  return {
    label := ← shape.required form "label" parts.label
    round := parts.round.getD none
    hideable := parts.hideable.getD false }

/-- A column read from a value. -/
def ofJson (json : Json) : Except DecodeError Column :=
  shape.decode {} Parts.take Parts.finish json.view

/-- The value of a column. -/
def toJson (column : Column) : Json :=
  .object [
    ("label", .text column.label),
    ("round", .ofOption RoundId.toJson column.round),
    ("hideable", .bool column.hideable)]

end Column

namespace GroupHeader

/-- The fields of a round header read so far. -/
structure Parts where
  round : Option RoundId := none
  title : Option String := none
  label : Option (Option String) := none

/-- The fields of a round header. -/
def shape : Shape where
  name := "struct RoundGroupHeader"
  fields := ["round", "title", "label"]

/-- Adds one field. -/
def Parts.take (parts : Parts) (field : String) (json : Json) : Except DecodeError Parts :=
  match field with
  | "round" => do return { parts with round := some (← RoundId.ofJson json) }
  | "title" => do return { parts with title := some (← json.toText) }
  | "label" => do return { parts with label := some (← json.toOption Json.toText) }
  | _ => return parts

/-- The round header of its fields. -/
def Parts.finish (form : Form) (parts : Parts) : Except DecodeError GroupHeader := do
  return {
    round := ← shape.required form "round" parts.round
    title := ← shape.required form "title" parts.title
    label := parts.label.getD none }

/-- A round header read from a value. -/
def ofJson (json : Json) : Except DecodeError GroupHeader :=
  shape.decode {} Parts.take Parts.finish json.view

/-- The value of a round header. -/
def toJson (header : GroupHeader) : Json :=
  .object [
    ("round", header.round.toJson),
    ("title", .text header.title),
    ("label", .ofOption .text header.label)]

end GroupHeader

namespace Table

/-- The fields of a table read so far. -/
structure Parts where
  id : Option String := none
  year : Option (Option Int32) := none
  /-- The labels at the left. -/
  leading : Option (List String) := none
  columns : Option (List Column) := none
  groups : Option (List GroupHeader) := none
  rows : Option (List Row) := none

/-- The fields of a table. -/
def shape : Shape where
  name := "struct Table"
  fields := ["id", "year", "leading", "columns", "groups", "rows"]

/-- Adds one field. -/
def Parts.take (parts : Parts) (field : String) (json : Json) : Except DecodeError Parts :=
  match field with
  | "id" => do return { parts with id := some (← json.toText) }
  | "year" => do return { parts with year := some (← json.toOption Json.toYear) }
  | "leading" => do return { parts with leading := some (← json.toList Json.toText) }
  | "columns" => do return { parts with columns := some (← json.toList Column.ofJson) }
  | "groups" => do return { parts with groups := some (← json.toList GroupHeader.ofJson) }
  | "rows" => do return { parts with rows := some (← json.toList Row.ofJson) }
  | _ => return parts

/-- The table of its fields. -/
def Parts.finish (form : Form) (parts : Parts) : Except DecodeError Table := do
  return {
    id := ← shape.required form "id" parts.id
    year := parts.year.getD none
    leading := parts.leading.getD []
    columns := parts.columns.getD []
    groups := parts.groups.getD []
    rows := parts.rows.getD [] }

/-- A table read from a value. -/
def ofJson (json : Json) : Except DecodeError Table :=
  shape.decode {} Parts.take Parts.finish json.view

/-- The value of a table. -/
def toJson (table : Table) : Json :=
  .object [
    ("id", .text table.id),
    ("year", .ofOption .ofYear table.year),
    ("leading", .ofList .text table.leading),
    ("columns", .ofList Column.toJson table.columns),
    ("groups", .ofList GroupHeader.toJson table.groups),
    ("rows", .ofList Row.toJson table.rows)]

end Table

namespace ElementKind

/-- The kind of a name; a name of no kind stands for any other kind. -/
def ofName : String → ElementKind
  | "chart" => chart
  | "linescore" => linescore
  | "linescore-row" => linescoreRow
  | _ => other

/-- The name of a kind. -/
def name : ElementKind → String
  | chart => "chart"
  | linescore => "linescore"
  | linescoreRow => "linescore-row"
  | other => "other"

/-- A kind read from a value. -/
def ofJson (json : Json) : Except DecodeError ElementKind :=
  json.toChoice fun name => .ok (ofName name)

/-- The value of a kind. -/
def toJson (kind : ElementKind) : Json :=
  .text kind.name

end ElementKind

namespace Element

/-- The fields of an element read so far. -/
structure Parts where
  id : Option String := none
  kind : Option ElementKind := none
  player : Option (Option ParticipantId) := none
  round : Option (Option RoundId) := none
  text : Option String := none

/-- The fields of an element. -/
def shape : Shape where
  name := "struct Element"
  fields := ["id", "kind", "player", "round", "text"]

/-- Adds one field. -/
def Parts.take (parts : Parts) (field : String) (json : Json) : Except DecodeError Parts :=
  match field with
  | "id" => do return { parts with id := some (← json.toText) }
  | "kind" => do return { parts with kind := some (← ElementKind.ofJson json) }
  | "player" => do return { parts with player := some (← json.toOption ParticipantId.ofJson) }
  | "round" => do return { parts with round := some (← json.toOption RoundId.ofJson) }
  | "text" => do return { parts with text := some (← json.toText) }
  | _ => return parts

/-- The element of its fields. -/
def Parts.finish (form : Form) (parts : Parts) : Except DecodeError Element := do
  return {
    id := ← shape.required form "id" parts.id
    kind := parts.kind.getD .other
    player := parts.player.getD none
    round := parts.round.getD none
    text := parts.text.getD "" }

/-- An element read from a value. -/
def ofJson (json : Json) : Except DecodeError Element :=
  shape.decode {} Parts.take Parts.finish json.view

/-- The value of an element. -/
def toJson (element : Element) : Json :=
  .object [
    ("id", .text element.id),
    ("kind", element.kind.toJson),
    ("player", .ofOption ParticipantId.toJson element.player),
    ("round", .ofOption RoundId.toJson element.round),
    ("text", .text element.text)]

end Element

namespace Page

/-- The fields of a page read so far. -/
structure Parts where
  title : Option String := none
  year : Option (Option Int32) := none
  tables : Option (List Table) := none
  elements : Option (List Element) := none

/-- The fields of a page. -/
def shape : Shape where
  name := "struct Page"
  fields := ["title", "year", "tables", "elements"]

/-- Adds one field. -/
def Parts.take (parts : Parts) (field : String) (json : Json) : Except DecodeError Parts :=
  match field with
  | "title" => do return { parts with title := some (← json.toText) }
  | "year" => do return { parts with year := some (← json.toOption Json.toYear) }
  | "tables" => do return { parts with tables := some (← json.toList Table.ofJson) }
  | "elements" => do return { parts with elements := some (← json.toList Element.ofJson) }
  | _ => return parts

/-- The page of its fields. -/
def Parts.finish (form : Form) (parts : Parts) : Except DecodeError Page := do
  return {
    title := ← shape.required form "title" parts.title
    year := ← shape.optional form "year" parts.year
    tables := ← shape.required form "tables" parts.tables
    elements := ← shape.required form "elements" parts.elements }

/-- A page read from a value. -/
def ofJson (json : Json) : Except DecodeError Page :=
  shape.decode {} Parts.take Parts.finish json.view

/-- The value of a page. -/
def toJson (page : Page) : Json :=
  .object [
    ("title", .text page.title),
    ("year", .ofOption .ofYear page.year),
    ("tables", .ofList Table.toJson page.tables),
    ("elements", .ofList Element.toJson page.elements)]

end Page

end Scoreboard
