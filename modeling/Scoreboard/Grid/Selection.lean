import Scoreboard.Page.Basic

/-!
# The selected participant and round

A page can be narrowed to one participant and, independently, to one round. Only things that carry a
tag of the narrowed kind are affected.

## Main definitions

- `Selection` — the participant and round that a page is narrowed to
- `Selection.allowsPlayer`, `Selection.allowsRound` — a tag passes
-/

namespace Scoreboard

/-- The participant and round that a page is narrowed to; none of a kind means no narrowing. -/
structure Selection where
  participant : Option ParticipantId := none
  round : Option RoundId := none
  deriving DecidableEq

namespace Selection

/-- A tag passes a choice unless both are there and differ. -/
def passes {α : Type} [DecidableEq α] (chosen tag : Option α) : Bool :=
  match chosen, tag with
  | some active, some tag => active = tag
  | _, _ => true

/-- What carries the participant tag passes. -/
def allowsPlayer (selection : Selection) (tag : Option ParticipantId) : Bool :=
  passes selection.participant tag

/-- What carries the round tag passes. -/
def allowsRound (selection : Selection) (tag : Option RoundId) : Bool :=
  passes selection.round tag

end Selection

end Scoreboard
