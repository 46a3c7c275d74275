import Scoreboard.Page.Basic

/-!
# Refused interactions

## Main definitions

- `GridError` — why an interaction is refused
- `GridError.message` — its wording
-/

namespace Scoreboard

/-- Why an interaction is refused. -/
inductive GridError where
  /-- No table has the name. -/
  | tableNotFound (tableId : String)
  /-- The table has too few sorted columns. -/
  | columnOutOfRange (tableId : String) (column columns : Nat)
  /-- No table has a header for the round. -/
  | roundNotFound (round : RoundId)
  deriving DecidableEq

/-- The wording of a refusal. -/
def GridError.message : GridError → String
  | .tableNotFound tableId => "table " ++ tableId ++ " not found"
  | .columnOutOfRange tableId column columns =>
    "column " ++ column.repr ++ " out of range for table " ++ tableId ++ " (" ++ columns.repr
      ++ " sortable columns)"
  | .roundNotFound round => "round " ++ round.text ++ " has no collapsible group"

end Scoreboard
