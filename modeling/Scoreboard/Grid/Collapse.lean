import Scoreboard.Grid.Error
import Scoreboard.Page.Tags
import Scoreboard.Settings.Basic
import Scoreboard.SortedMap

/-!
# Collapsed rounds

Every round with a header can be collapsed and expanded again. Its label follows, but not its state:
a label other than the one that offers to expand always gives way to that one.

## Main definitions

- `Collapse` — which rounds of a page are collapsed, and their labels
- `Collapse.ofPage` — the state of a page at first
- `Collapse.toggle` — the state after a click on a round's header
- `GroupView` — how the header of a round is drawn
- `Collapse.views` — how all headers are drawn
-/

namespace Scoreboard

/-- The state of one round. -/
structure Fold where
  /-- The round is collapsed. -/
  collapsed : Bool
  /-- The label of its header. -/
  label : String
  deriving DecidableEq

/-- How the header of a round is drawn. -/
structure GroupView where
  round : RoundId
  /-- The round is collapsed. -/
  collapsed : Bool
  /-- The columns that the header spans. -/
  span : UInt32
  /-- The label of the header. -/
  label : String
  /-- The headers of its columns that can be hidden are shown. -/
  secondaryShown : Bool
  deriving DecidableEq

/-- The states of the rounds that have a header. -/
structure Collapse where
  /-- The states by round. -/
  folds : SortedMap RoundId Fold
  /-- The labels and widths in use. -/
  style : CollapseStyle
  deriving DecidableEq

/-- The state of a round at first: expanded, with the label of its header. -/
def GroupHeader.fold (style : CollapseStyle) (header : GroupHeader) : Fold :=
  ⟨false, header.label.getD style.expandLabel⟩

/-- The state after a click. -/
def Fold.toggle (style : CollapseStyle) (fold : Fold) : Fold :=
  ⟨!fold.collapsed, if fold.label = style.expandLabel then style.shrinkLabel else style.expandLabel⟩

/-- How a round in some state is drawn. -/
def Fold.view (style : CollapseStyle) (round : RoundId) (fold : Fold) : GroupView where
  round := round
  collapsed := fold.collapsed
  span := if fold.collapsed then style.collapsedSpan else style.expandedSpan
  label := fold.label
  secondaryShown := !fold.collapsed

namespace Collapse

/-- The state of a page at first. Of several headers for a round the first one counts. -/
def ofPage (page : Page) (style : CollapseStyle) : Collapse where
  folds := page.groupHeaders.foldr
    (fun header folds => folds.insert header.round (header.fold style)) ∅
  style := style

/-- The round is collapsed. -/
def isCollapsed (collapse : Collapse) (round : RoundId) : Bool :=
  (collapse.folds.get? round).any Fold.collapsed

/-- The state after a click on the header of a round, and how that header is drawn then. -/
def toggle (collapse : Collapse) (round : RoundId) : Except GridError (Collapse × GroupView) :=
  match collapse.folds.get? round with
  | none => .error (.roundNotFound round)
  | some fold =>
    let fold := fold.toggle collapse.style
    .ok ({ collapse with folds := collapse.folds.insert round fold },
      fold.view collapse.style round)

/-- How all headers are drawn, in ascending order of their rounds. -/
def views (collapse : Collapse) : List GroupView :=
  collapse.folds.entries.map fun entry => entry.2.view collapse.style entry.1

end Collapse

end Scoreboard
