import Scoreboard.Number.Binary

/-!
# Settings

## Main definitions

- `CollapseStyle` — labels and widths of collapsed and expanded rounds
- `Presentation` — how a page is drawn and how often reading it reports progress
- `Settings` — all settings, each with a default
-/

namespace Scoreboard

/-- Labels and widths of collapsed and expanded rounds. -/
structure CollapseStyle where
  /-- The label that offers to expand. -/
  expandLabel : String := "tap to expand"
  /-- The label that offers to shrink. -/
  shrinkLabel : String := "tap to shrink"
  /-- The columns that an expanded round spans. -/
  expandedSpan : UInt32 := 3
  /-- The columns that a collapsed round spans. -/
  collapsedSpan : UInt32 := 1
  deriving DecidableEq

/-- How a page is drawn and how often reading it reports progress. -/
structure Presentation where
  /-- The height of a row. -/
  rowHeight : Binary binary32 := .finite ⟨false, 24 * Nat.pow 2 binary32.scale⟩
  /-- Progress is reported whenever this many lines were read; never if it is zero. -/
  progressEvery : UInt64 := 100
  deriving DecidableEq

/-- All settings. -/
structure Settings where
  /-- How many cells stand before the first sorted column. -/
  cellOffset : UInt64 := 1
  /-- The year of stamps whose table and page name none. -/
  referenceYear : Option Int32 := none
  /-- Labels and widths of collapsed and expanded rounds. -/
  collapse : CollapseStyle := {}
  /-- How a page is drawn and read. -/
  presentation : Presentation := {}
  deriving DecidableEq

end Scoreboard
