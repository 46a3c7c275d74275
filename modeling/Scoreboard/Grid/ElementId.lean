import Scoreboard.Page.Basic

/-!
# Names of things on a page

## Main definitions

- `ElementId` — anything on a page that can be shown or hidden
- `ElementId.text` — its name as one text
- `ElementId.sortKey` — what the order of names compares

## Design notes

Names are ordered by kind first, then part by part. Names of different kinds never print alike, but
a slash within a table's name can make two names of one kind do so.
-/

namespace Scoreboard

/-- Anything on a page that can be shown or hidden. -/
inductive ElementId where
  | row (table id : String)
  /-- A cell of a row. -/
  | cell (table id : String) (column : Nat)
  /-- The header of a column. -/
  | header (table : String) (column : Nat)
  /-- The header of a round. -/
  | group (table : String) (round : RoundId)
  /-- An element outside the tables. -/
  | element (id : String)
  deriving DecidableEq

/-- What the order of names compares, part by part. -/
structure ElementKey where
  /-- The place of the kind. -/
  kind : Nat
  /-- The name of the table, or of the element. -/
  owner : String
  /-- The name of the row. -/
  row : String
  /-- The column or the round. -/
  number : Nat

/-- The order of keys. -/
def ElementKey.order : ElementKey → ElementKey → Ordering :=
  compareLex (compareOn kind) <| compareLex (compareOn owner) <|
    compareLex (compareOn row) (compareOn number)

instance : Std.TransCmp ElementKey.order :=
  inferInstanceAs (Std.TransCmp (compareLex (compareOn ElementKey.kind)
    (compareLex (compareOn ElementKey.owner)
      (compareLex (compareOn ElementKey.row) (compareOn ElementKey.number)))))

namespace ElementId

/-- What the order of names compares. -/
def sortKey : ElementId → ElementKey
  | .row table id => ⟨0, table, id, 0⟩
  | .cell table id column => ⟨1, table, id, column⟩
  | .header table column => ⟨2, table, "", column⟩
  | .group table round => ⟨3, table, "", round.number.toNat⟩
  | .element id => ⟨4, id, "", 0⟩

instance : Ord ElementId := ⟨fun a b => ElementKey.order a.sortKey b.sortKey⟩

instance : Std.TransOrd ElementId where
  eq_swap {a b} := @Std.OrientedCmp.eq_swap _ ElementKey.order _ a.sortKey b.sortKey
  isLE_trans {a b c} := @Std.TransCmp.isLE_trans _ ElementKey.order _ a.sortKey b.sortKey c.sortKey

/-- The name as one text. -/
def text : ElementId → String
  | .row table id => "row:" ++ table ++ "/" ++ id
  | .cell table id column => "cell:" ++ table ++ "/" ++ id ++ "/" ++ column.repr
  | .header table column => "header:" ++ table ++ "/" ++ column.repr
  | .group table round => "group:" ++ table ++ "/" ++ round.text
  | .element id => "element:" ++ id

end ElementId

end Scoreboard
