/-!
# Pages

A page is what a scoreboard shows: tables of scored rows, and free-standing elements such as charts.

## Main definitions

- `ParticipantId`, `RoundId` — the two kinds of tag
- `Cell`, `Row`, `Column`, `GroupHeader`, `Table` — tables and their parts
- `Element` — anything outside the tables
- `Page` — a whole page
-/

namespace Scoreboard

/-- The name by which a participant is tagged. -/
structure ParticipantId where
  name : String
  deriving DecidableEq

/-- The number of a round. -/
structure RoundId where
  number : UInt32
  deriving DecidableEq

namespace RoundId

instance : Ord RoundId := ⟨compareOn RoundId.number⟩

instance : Std.TransOrd RoundId :=
  inferInstanceAs (Std.TransCmp (compareOn RoundId.number))

instance : Std.LawfulEqOrd RoundId where
  eq_of_compare {a b} h := by
    cases a; cases b
    exact congrArg _ (Std.LawfulEqOrd.eq_of_compare (α := UInt32) h)

/-- The number in decimal. -/
def text (round : RoundId) : String :=
  round.number.toNat.repr

end RoundId

/-- The direction of a sort. -/
inductive Direction where
  | ascending
  | descending
  deriving DecidableEq

/-- The arrow that marks a sorted column. -/
def Direction.arrow : Direction → String
  | .ascending => "▲"
  | .descending => "▼"

/-- A cell of a table. -/
structure Cell where
  text : String
  /-- The round it belongs to. -/
  round : Option RoundId
  /-- The participant it belongs to. -/
  player : Option ParticipantId
  /-- It is hidden while its round is collapsed. -/
  hideable : Bool
  deriving DecidableEq

/-- A cell with nothing but a text. -/
def Cell.plain (text : String) : Cell :=
  ⟨text, none, none, false⟩

/-- A row of a table. -/
structure Row where
  /-- The name of the row within its table. -/
  id : String
  /-- The participant it belongs to. -/
  player : Option ParticipantId
  /-- The round it belongs to. -/
  round : Option RoundId
  /-- The cells from left to right. -/
  cells : List Cell
  deriving DecidableEq

/-- A column that a click on its header sorts. -/
structure Column where
  /-- The text of the header. -/
  label : String
  /-- The round it belongs to. -/
  round : Option RoundId
  /-- The header is hidden while its round is collapsed. -/
  hideable : Bool
  deriving DecidableEq

/-- A header that spans the columns of one round. -/
structure GroupHeader where
  round : RoundId
  /-- The text of the header. -/
  title : String
  /-- The collapse label that is shown at first. -/
  label : Option String
  deriving DecidableEq

/-- A table of scored rows. -/
structure Table where
  /-- The name of the table. -/
  id : String
  /-- The year of its stamps. -/
  year : Option Int32
  /-- The labels of the columns at the left that are not sorted. -/
  leading : List String
  /-- The columns that are sorted. -/
  columns : List Column
  /-- The headers above the columns. -/
  groups : List GroupHeader
  /-- The rows from top to bottom. -/
  rows : List Row
  deriving DecidableEq

/-- The names of the rows from top to bottom. -/
def Table.rowIds (table : Table) : List String :=
  table.rows.map Row.id

/-- The kinds of element. -/
inductive ElementKind where
  | chart
  | linescore
  /-- One row of a line score. -/
  | linescoreRow
  | other
  deriving DecidableEq

/-- Something outside the tables. -/
structure Element where
  /-- The name of the element. -/
  id : String
  kind : ElementKind
  /-- The participant it belongs to. -/
  player : Option ParticipantId
  /-- The round it belongs to. -/
  round : Option RoundId
  text : String
  deriving DecidableEq

/-- What a scoreboard shows. -/
structure Page where
  title : String
  /-- The year of the stamps in tables that name none. -/
  year : Option Int32
  /-- The tables from top to bottom. -/
  tables : List Table
  /-- The elements below the tables. -/
  elements : List Element
  deriving DecidableEq

namespace Page

/-- The first table of a name. -/
def table? (page : Page) (id : String) : Option Table :=
  page.tables.find? fun table => table.id = id

end Page

end Scoreboard
