import Scoreboard.Feed.Record
import Scoreboard.Feed.Roster
import Scoreboard.Json.Printer

/-!
# Pages in the making

A draft is what the records of a feed have described so far.

## Main definitions

- `Draft` — the page data, tables and elements so far, and warnings
- `Draft.take` — the draft after one more record
- `RecordError` — why a record is refused
- `Warning` — something odd about a record that was taken

## Design notes

A record without data is passed over. Before the page record, any other record is refused. A table
or element that comes again replaces the earlier one in its place; so does a row of a table, found
by its name. A row for an unknown table is dropped.
-/

namespace Scoreboard

/-- Something odd about a record that was taken. -/
inductive Warning where
  /-- A table came again. -/
  | tableAgain (line : Nat) (tableId : String)
  /-- A row was dropped, since its table is not known. -/
  | rowDropped (line : Nat) (rowId tableId : String)
  /-- A row came again. -/
  | rowReplaced (line : Nat) (rowId tableId : String)
  /-- An element came again. -/
  | elementAgain (line : Nat) (elementId : String)
  deriving DecidableEq

/-- The wording of a warning. -/
def Warning.message : Warning → String
  | tableAgain line tableId => "Line " ++ line.repr ++ ": table " ++ tableId ++ " defined twice"
  | rowDropped line rowId tableId =>
    "Line " ++ line.repr ++ ": skipping row " ++ rowId ++ " for unknown table " ++ tableId
  | rowReplaced line rowId tableId =>
    "Line " ++ line.repr ++ ": row " ++ rowId ++ " in table " ++ tableId ++ " replaced"
  | elementAgain line elementId =>
    "Line " ++ line.repr ++ ": element " ++ elementId ++ " defined twice"

/-- Why a record is refused. -/
inductive RecordError where
  /-- There was no page record yet. -/
  | noPage
  /-- The data do not fit the kind of the record. -/
  | badData (line : Nat) (kind : RecordKind) (error : DecodeError) (data : Json)

/-- The wording of a refused record. -/
def RecordError.message : RecordError → String
  | noPage => "Wrong feed: page not defined yet"
  | badData line kind error data =>
    "Line " ++ line.repr ++ ": failed to parse " ++ kind.name ++ " payload: "
      ++ error.message Json.realStyle ++ " | data: " ++ data.print

/-- What the records of a feed have described so far. -/
structure Draft where
  info : Option PageInfo := none
  tables : Roster Table := ∅
  elements : Roster Element := ∅
  /-- The warnings, in line order. -/
  warnings : List Warning := []
  deriving DecidableEq

/-- The table with a row added at the bottom, or put in the place of the row of its name; and
    whether there was one. -/
def Table.putRow (table : Table) (row : Row) : Table × Bool :=
  match table.rows.findIdx? fun other => other.id = row.id with
  | some place => ({ table with rows := table.rows.set place row }, true)
  | none => ({ table with rows := table.rows ++ [row] }, false)

namespace Draft

/-- The draft with one more warning, if there is cause for it. -/
def warnIf (draft : Draft) (cause : Bool) (warning : Warning) : Draft :=
  if cause then { draft with warnings := draft.warnings ++ [warning] } else draft

/-- The draft with a table. -/
def putTable (draft : Draft) (line : Nat) (table : Table) : Draft :=
  let (tables, again) := draft.tables.put table.id table
  { draft with tables }.warnIf again (.tableAgain line table.id)

/-- The draft with an element. -/
def putElement (draft : Draft) (line : Nat) (element : Element) : Draft :=
  let (elements, again) := draft.elements.put element.id element
  { draft with elements }.warnIf again (.elementAgain line element.id)

/-- The draft with a row. -/
def putRow (draft : Draft) (line : Nat) (record : RowRecord) : Draft :=
  match draft.tables.find? record.tableId with
  | none => draft.warnIf true (.rowDropped line record.row.id record.tableId)
  | some place =>
    let again := draft.tables.items[place]?.any fun table => (table.putRow record.row).2
    let tables := draft.tables.modify place fun table => (table.putRow record.row).1
    { draft with tables }.warnIf again (.rowReplaced line record.row.id record.tableId)

/-- The data of a record as data of its kind. -/
def decodeData {α : Type} (line : Nat) (kind : RecordKind) (data : Json)
    (decode : Json → Except DecodeError α) : Except RecordError α :=
  match decode data with
  | .ok a => .ok a
  | .error error => .error (.badData line kind error data)

/-- The draft after one more record. -/
def take (draft : Draft) (line : Nat) (record : Record) : Except RecordError Draft :=
  match record.data with
  | none => .ok draft
  | some data =>
    match record.kind with
    | .page => do
      return { draft with info := some (← decodeData line .page data PageInfo.ofJson) }
    | kind =>
      if draft.info.isNone then .error .noPage
      else
        match kind with
        | .table => do return draft.putTable line (← decodeData line .table data Table.ofJson)
        | .row => do return draft.putRow line (← decodeData line .row data RowRecord.ofJson)
        | _ => do return draft.putElement line (← decodeData line .element data Element.ofJson)

/-- The page that was described, if there was a page record. -/
def page? (draft : Draft) : Option Page :=
  draft.info.map fun info => ⟨info.title, info.year, draft.tables.items, draft.elements.items⟩

end Draft

end Scoreboard
