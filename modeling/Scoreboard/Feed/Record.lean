import Scoreboard.Codec.Page

/-!
# Records of a feed

A feed describes a page by records: one for the page itself, and one for each table, row and
element.

## Main definitions

- `RecordKind` — the kinds of record
- `Record` — a kind and the data of that kind, not looked into yet
- `PageInfo` — the data of a page record
- `RowRecord` — the data of a row record
-/

namespace Scoreboard

/-- The kinds of record. -/
inductive RecordKind where
  /-- The title and year of the page. -/
  | page
  /-- A table, with rows or without. -/
  | table
  /-- A row of a table. -/
  | row
  | element
  deriving DecidableEq

namespace RecordKind

/-- The names of the kinds. -/
def choices : List (String × RecordKind) :=
  [("page", page), ("table", table), ("row", row), ("element", element)]

/-- The name of a kind. -/
def name : RecordKind → String
  | page => "page"
  | table => "table"
  | row => "row"
  | element => "element"

/-- A kind read from a value. -/
def ofJson (json : Json) : Except DecodeError RecordKind :=
  json.toChoice (chooseFrom choices)

/-- The value of a kind. -/
def toJson (kind : RecordKind) : Json :=
  .text kind.name

end RecordKind

/-- A record of a feed. -/
structure Record where
  kind : RecordKind
  /-- The data, if there are any. -/
  data : Option Json

namespace Record

/-- The fields of a record. -/
def shape : Shape where
  name := "struct FeedRecord"
  fields := ["type", "data"]

/-- The fields of a record read so far. -/
structure Parts where
  kind : Option RecordKind := none
  /-- The data, if there are any. -/
  data : Option (Option Json) := none

/-- Adds one field. -/
def Parts.take (parts : Parts) (field : String) (json : Json) : Except DecodeError Parts :=
  match field with
  | "type" => do return { parts with kind := some (← RecordKind.ofJson json) }
  | "data" => do return { parts with data := some (← json.toOption .ok) }
  | _ => return parts

/-- The record of its fields. -/
def Parts.finish (form : Form) (parts : Parts) : Except DecodeError Record := do
  return {
    kind := ← shape.required form "type" parts.kind
    data := ← shape.optional form "data" parts.data }

/-- A record read from a value. -/
def ofJson (json : Json) : Except DecodeError Record :=
  shape.decode {} Parts.take Parts.finish json.view

/-- The value of a record. -/
def toJson (record : Record) : Json :=
  .object [("type", record.kind.toJson), ("data", .ofOption id record.data)]

end Record

/-- The data of a page record. -/
structure PageInfo where
  title : String
  /-- The year of the stamps. -/
  year : Option Int32
  deriving DecidableEq

namespace PageInfo

/-- The fields of page data. -/
def shape : Shape where
  name := "struct PageInfo"
  fields := ["title", "year"]

/-- The fields of page data read so far. -/
structure Parts where
  title : Option String := none
  year : Option (Option Int32) := none

/-- Adds one field. -/
def Parts.take (parts : Parts) (field : String) (json : Json) : Except DecodeError Parts :=
  match field with
  | "title" => do return { parts with title := some (← json.toText) }
  | "year" => do return { parts with year := some (← json.toOption Json.toYear) }
  | _ => return parts

/-- The page data of its fields. -/
def Parts.finish (form : Form) (parts : Parts) : Except DecodeError PageInfo := do
  return {
    title := ← shape.required form "title" parts.title
    year := parts.year.getD none }

/-- Page data read from a value. -/
def ofJson (json : Json) : Except DecodeError PageInfo :=
  shape.decode {} Parts.take Parts.finish json.view

/-- The value of page data. -/
def toJson (info : PageInfo) : Json :=
  .object [("title", .text info.title), ("year", .ofOption .ofYear info.year)]

end PageInfo

/-- The data of a row record: a row and the table that it goes into. -/
structure RowRecord where
  /-- The name of the table. -/
  tableId : String
  row : Row
  deriving DecidableEq

namespace RowRecord

/-- What messages call row data. -/
def shapeName : String := "struct RowRecord"

/-- Row data read from a value: an object with the members of a row and the name of the table. The
    table is looked at first. -/
def ofJson : Json → Except DecodeError RowRecord
  | .object members => do
    let tableId ←
      match (Json.object members).member? "table_id" with
      | some json => json.toText
      | none => .error (.missing "table_id")
    return ⟨tableId, ← Row.ofJson (.object members)⟩
  | json => .error (.wrongType json.found (.record shapeName))

/-- The value of row data. -/
def toJson (record : RowRecord) : Json :=
  .object (("table_id", .text record.tableId) :: record.row.toMembers)

end RowRecord

end Scoreboard
