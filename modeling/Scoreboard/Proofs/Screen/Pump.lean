import Mathlib.Data.List.DropRight
import Scoreboard.Proofs.Feed.Refusal
import Scoreboard.Screen.LoadFrame

/-!
# The load screen while a feed is read

While a feed is read the load screen is told by the feed that was asked for and by the events that
were taken, one after the other. In how many frames they were taken makes no difference.

## Main definitions

- `FeedEvent.problem?` — the problem that an event brings
- `LoadScreen.during` — the load screen while a feed is read
- `ParseStatus.errors?` — the number of refused lines that is shown

## Main statements

- `LoadScreen.take_during` — what one event does
- `LoadScreen.pump_during` — what the events do that have arrived by a frame
- `LoadScreen.pump_during_last` — what they do if the last one is among them

## Design notes

To start afresh is told by an event as well, so the state is told by all events just because that
event is the first one.
-/

namespace Scoreboard

/-- The problem that an event brings, if it tells that a line is refused. -/
def FeedEvent.problem? : FeedEvent → Option ParseProblem
  | .lineError number line error => some (.line number line error)
  | _ => none

/-- How many lines were read, if an event tells that. -/
def FeedEvent.progress? : FeedEvent → Option Nat
  | .progress lines => some lines
  | _ => none

namespace LoadScreen

/-- The load screen while the feed at a path is read and `told` are the events that were taken. The
    problems of the lines that were refused last are listed. -/
def during (path : String) (settings : Settings) (told events : List FeedEvent) : LoadScreen where
  waiting := some events
  parsing := true
  parsedPath := some path
  lines := (told.filterMap FeedEvent.progress?).getLast?.getD 0
  errorCount := (Feed.refusedLines told).length
  problems := (told.filterMap FeedEvent.problem?).rtake problemLimit
  settings := some settings

theorem addProblem_rtake (screen : LoadScreen) (problems : List ParseProblem)
    (hproblems : screen.problems = problems.rtake problemLimit) (problem : ParseProblem) :
    screen.addProblem problem =
      { screen with problems := (problems ++ [problem]).rtake problemLimit } := by
  unfold addProblem
  rw [hproblems, ← List.rtake_concat_succ]
  unfold List.rtake
  dsimp only
  rw [List.length_drop]
  split
  · -- The oldest problem gives way.
    rw [List.tail_drop]
    congr 3
    omega
  · congr 2
    omega

variable (path : String) (settings : Settings) {told : List FeedEvent}

/-- One more event is taken. -/
theorem take_during {event : FeedEvent} (hlast : event.isLast = false)
    (hstarted : event = .started → told = []) (events : List FeedEvent) :
    ({ during path settings told (event :: events) with waiting := some events } :
      LoadScreen).take event = during path settings (told ++ [event]) events := by
  cases event with
  | started =>
    obtain rfl := hstarted rfl
    rfl
  | progress lines =>
    have hproblem : [FeedEvent.progress lines].filterMap FeedEvent.problem? = [] := rfl
    simp [take, during, Feed.refusedLines, FeedEvent.progress?, hproblem, FeedEvent.refused?]
  | lineError number line error =>
    rw [take, addProblem_rtake _ (told.filterMap FeedEvent.problem?) rfl]
    simp [during, Feed.refusedLines, FeedEvent.progress?, FeedEvent.problem?,
      FeedEvent.refused?]
  | finished outcome => cases hlast
  | failed failure => cases hlast

/-- The events that have arrived are taken, as far as none of them is the last one. That reading
    starts is told once. -/
theorem pump_during {front : List FeedEvent} (hfront : ∀ event ∈ front, event.isLast = false)
    {events : List FeedEvent} (hstarted : .started ∉ (told ++ front ++ events).tail)
    (arrivals : Nat) :
    (during path settings told (front ++ events)).pump (front.length + arrivals) =
      (during path settings (told ++ front) events).pump arrivals := by
  induction front generalizing told with
  | nil => rw [List.append_nil, List.nil_append, List.length_nil, Nat.zero_add]
  | cons event front ih =>
    obtain ⟨hevent, hfront⟩ := List.forall_mem_cons.1 hfront
    have hfirst : event = .started → told = [] := by
      rintro rfl
      cases told with
      | nil => rfl
      | cons first rest =>
        exact absurd (List.mem_append_left events (List.mem_append_right rest List.mem_cons_self))
          hstarted
    rw [List.append_cons] at hstarted ⊢
    rw [List.length_cons, Nat.add_right_comm, ← ih hfront hstarted]
    exact congrArg (pump _) (take_during path settings hevent hfirst _)

theorem pump_during_take {front : List FeedEvent} (hfront : ∀ event ∈ front, event.isLast = false)
    {events : List FeedEvent} (hstarted : .started ∉ (told ++ front ++ events).tail)
    {arrivals : Nat} (harrivals : arrivals ≤ front.length) :
    (during path settings told (front ++ events)).pump arrivals =
      during path settings (told ++ front.take arrivals) (front.drop arrivals ++ events) := by
  have hsplit : front.take arrivals ++ (front.drop arrivals ++ events) = front ++ events := by
    rw [← List.append_assoc, List.take_append_drop]
  have htaken : ∀ event ∈ front.take arrivals, event.isLast = false :=
    fun event hmem => hfront event (List.mem_of_mem_take hmem)
  rw [List.append_assoc, ← hsplit, ← List.append_assoc] at hstarted
  have hpump := pump_during path settings htaken hstarted 0
  rw [hsplit, List.length_take, Nat.min_eq_left harrivals] at hpump
  exact hpump

theorem pump_of_waiting_none {screen : LoadScreen} (h : screen.waiting = none) (arrivals : Nat) :
    screen.pump arrivals = screen := by
  cases arrivals with
  | zero => rfl
  | succ arrivals => simp only [pump, h]

theorem take_last {event : FeedEvent} (h : event.isLast = true) (screen : LoadScreen) :
    (screen.take event).waiting = none ∧ (screen.take event).parsing = false := by
  cases event with
  | finished outcome =>
    simp only [take]
    split <;> exact ⟨rfl, rfl⟩
  | failed failure => exact ⟨rfl, rfl⟩
  | _ => cases h

/-- All events have arrived. Nothing is taken after the last one. -/
theorem pump_during_last {front : List FeedEvent} (hfront : ∀ event ∈ front, event.isLast = false)
    {last : FeedEvent} (hstarted : .started ∉ (told ++ front ++ [last]).tail)
    (hlast : last.isLast = true) {arrivals : Nat} (harrivals : front.length < arrivals) :
    ∃ screen : LoadScreen,
      (during path settings told (front ++ [last])).pump arrivals = screen.take last := by
  obtain ⟨more, rfl⟩ := Nat.exists_eq_add_of_lt harrivals
  rw [Nat.add_assoc, pump_during path settings hfront hstarted]
  exact ⟨_, pump_of_waiting_none (take_last hlast _).1 more⟩

/-- While a feed is read, a frame takes the events that have arrived, whatever the path is. -/
theorem refresh_during (told events : List FeedEvent) (inUse : Option String) (arrivals : Nat) :
    (during path settings told events).refresh inUse arrivals =
      (during path settings told events).pump arrivals := by
  simp [refresh, forget, during]

end LoadScreen

/-- The number of refused lines that is shown, if one is. -/
def ParseStatus.errors? : ParseStatus → Option Nat
  | running _ errors => some errors
  | done _ => some 0
  | failed (.lines count) => some count
  | _ => none

theorem LoadScreen.errors_take_finished (outcome : FeedOutcome) (screen : LoadScreen) :
    (screen.take (.finished outcome)).errorCount = outcome.errors ∧
      (screen.take (.finished outcome)).status.errors? = some outcome.errors := by
  simp only [take]
  split
  · next hnone =>
    rw [hnone]
    exact ⟨rfl, rfl⟩
  · exact ⟨rfl, rfl⟩

end Scoreboard
