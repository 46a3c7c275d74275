import Scoreboard.Page.Basic
import Scoreboard.SortedMap

/-!
# The tags of a page

The participants and rounds that a page mentions, from which the selection bar is made.

## Main definitions

- `Page.participants` — the participants in order of first appearance
- `Page.rounds` — the rounds in ascending order
- `ascendingRounds` — the distinct rounds of a list in ascending order
-/

namespace Scoreboard

/-- The distinct rounds of a list in ascending order. -/
def ascendingRounds (rounds : List RoundId) : List RoundId :=
  (SortedMap.ofList (rounds.map fun round => (round, ()))).keys

namespace Table

/-- The participants that the rows of a table belong to. -/
def playerTags (table : Table) : List ParticipantId :=
  table.rows.filterMap Row.player

/-- The rounds that a table mentions: its headers, its columns, then its rows. -/
def roundTags (table : Table) : List RoundId :=
  table.groups.map GroupHeader.round ++ table.columns.filterMap Column.round
    ++ table.rows.filterMap Row.round

end Table

namespace Page

/-- The participants that rows and elements belong to, in page order. -/
def playerTags (page : Page) : List ParticipantId :=
  page.tables.flatMap Table.playerTags ++ page.elements.filterMap Element.player

/-- The rounds that a page mentions, in page order. -/
def roundTags (page : Page) : List RoundId :=
  page.tables.flatMap Table.roundTags ++ page.elements.filterMap Element.round

/-- The participants of a page in order of first appearance, each once. -/
def participants (page : Page) : List ParticipantId :=
  page.playerTags.foldl (fun seen player => if player ∈ seen then seen else seen ++ [player]) []

/-- The rounds of a page in ascending order, each once. -/
def rounds (page : Page) : List RoundId :=
  ascendingRounds page.roundTags

/-- The round headers of all tables, in page order. -/
def groupHeaders (page : Page) : List GroupHeader :=
  page.tables.flatMap Table.groups

end Page

end Scoreboard
