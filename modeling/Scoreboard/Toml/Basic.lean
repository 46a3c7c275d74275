import Scoreboard.Codec.Record
import Scoreboard.Toml.Excerpt

/-!
# TOML values

## Main definitions

- `Toml` — a TOML value
- `TableOrigin` — how a table came about, which decides what may still be added to it
- `Toml.view` — a value, one layer deep
- `Toml.span` — where a value stands
-/

namespace Scoreboard

/-- How a table came about. -/
inductive TableOrigin where
  /-- It is written between braces and complete. -/
  | inline
  /-- It has a header of its own. -/
  | header
  /-- It is named on the way to the header of a table within it. -/
  | implied
  /-- It is named on the way to a dotted key. -/
  | dotted
  deriving DecidableEq

/-- A TOML value and where it stands in its document. -/
inductive Toml where
  | text (span : Toml.Span) (value : String)
  | integer (span : Toml.Span) (value : Int)
  | real (span : Toml.Span) (value : Binary binary64)
  | bool (span : Toml.Span) (value : Bool)
  /-- A date, a time or both, as written. -/
  | date (span : Toml.Span) (written : String)
  /-- A list between brackets. -/
  | array (span : Toml.Span) (items : List Toml)
  /-- The tables under headers of one name, each by its place and its members. -/
  | tables (items : List (Toml.Span × List (String × Toml)))
  /-- Values by name. A table without a header stands where it is named first. -/
  | table (span : Toml.Span) (origin : TableOrigin) (members : List (String × Toml))
  deriving Inhabited

namespace Toml

/-- What a message calls a value that is neither a list nor a table. A date counts as a table. -/
def found : Toml → Found
  | text _ value => .text value
  | integer _ value => .integer value
  | real _ value => .real value
  | bool _ value => .bool value
  | date _ _ => .map
  | array _ _ => .sequence
  | tables _ => .sequence
  | table _ _ _ => .map

/-- What messages about keys call a value that cannot be extended. -/
def kind : Toml → String
  | text _ _ => "string"
  | integer _ _ => "integer"
  | real _ _ => "float"
  | bool _ _ => "boolean"
  | date _ _ => "datetime"
  | array _ _ => "array"
  | tables _ => "array of tables"
  | table _ .inline _ => "inline table"
  | table _ _ _ => "table"

/-- Where a value stands: several tables, from the first to the last. -/
def span : Toml → Span
  | text span _ => span
  | integer span _ => span
  | real span _ => span
  | bool span _ => span
  | date span _ => span
  | array span _ => span
  | tables items =>
    match items.head?, items.getLast? with
    | some first, some last => first.1.through last.1
    | _, _ => default
  | table span _ _ => span

/-- The value, one layer deep. A date is a table with one member that nobody asks for. -/
def view : Toml → View Toml
  | date span written => .members [("$date", text span written)]
  | array _ items => .items items
  | tables items => .items (items.map fun item => table item.1 .header item.2)
  | table _ _ members => .members members
  | value => .other value.found

end Toml

end Scoreboard
