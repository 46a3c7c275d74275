import Scoreboard.Feed.Reading

/-!
# What is told of a feed

Whatever a feed holds, the reader has a last word, and says nothing after it. Before it, the reader
tells of lines that are refused and of progress.

## Main definitions

- `FeedEvent.isLast` — the reader says nothing after it
- `FeedEvent.refused?` — the line that is told to be refused

## Main statements

- `Feed.refused?_of_mem_readLines` — before it, just refusals and progress are told
- `Feed.eventsOfFile_eq_concat` — the end, and nothing else, is a last word
- `Feed.eq_nil_of_eventsOfFile` — nothing comes after the last word
-/

namespace Scoreboard

/-- The reader says nothing after it. -/
def FeedEvent.isLast : FeedEvent → Bool
  | .finished _ => true
  | .failed _ => true
  | _ => false

/-- The number of a line, if it is told to be refused. -/
def FeedEvent.refused? : FeedEvent → Option Nat
  | .lineError number _ _ => some number
  | _ => none

namespace Feed

variable {every : Nat} {reading : Reading}

/-- What is told of progress after so many lines. -/
def toldAfter (every number : Nat) : List FeedEvent :=
  if isProgress every number then [.progress number] else []

theorem eq_progress_of_mem_toldAfter {number : Nat} {event : FeedEvent}
    (h : event ∈ toldAfter every number) : event = .progress number := by
  unfold toldAfter at h
  split at h
  · exact List.mem_singleton.1 h
  · cases h

section

variable {line : String}

theorem readLine_of_ok {draft : Draft}
    (h : takeLine reading.draft (reading.lines + 1) line = .ok draft) :
    readLine every reading line =
      ({ reading with lines := reading.lines + 1, draft },
        toldAfter every (reading.lines + 1)) := by
  unfold readLine
  simp only [h]
  rfl

theorem readLine_of_error {error : LineError}
    (h : takeLine reading.draft (reading.lines + 1) line = .error error) :
    readLine every reading line =
      ({ reading with lines := reading.lines + 1, errors := reading.errors + 1 },
        .lineError (reading.lines + 1) line error :: toldAfter every (reading.lines + 1)) := by
  unfold readLine
  simp only [h]
  rfl

/-- Of one line a reader is told that it is refused, or nothing but progress. -/
theorem refused?_of_mem_readLine {event : FeedEvent}
    (h : event ∈ (readLine every reading line).2) :
    event.refused? = some (reading.lines + 1) ∨ event = .progress (reading.lines + 1) := by
  cases htake : takeLine reading.draft (reading.lines + 1) line with
  | ok draft =>
    rw [readLine_of_ok htake] at h
    exact .inr (eq_progress_of_mem_toldAfter h)
  | error error =>
    rw [readLine_of_error htake] at h
    rcases List.mem_cons.1 h with rfl | hmem
    · exact .inl rfl
    · exact .inr (eq_progress_of_mem_toldAfter hmem)

end

/-- Of lines a reader is told that one is refused, or nothing but progress. -/
theorem refused?_of_mem_readLines {lines : List (Option String)} {event : FeedEvent}
    (h : event ∈ (readLines every reading lines).2) :
    (∃ number, event.refused? = some number) ∨ ∃ number, event = .progress number := by
  induction lines generalizing reading with
  | nil => cases h
  | cons line rest ih =>
    cases line with
    | none => cases h
    | some line =>
      rcases List.mem_append.1 h with hnow | hlater
      · exact (refused?_of_mem_readLine hnow).imp (⟨_, ·⟩) (⟨_, ·⟩)
      · exact ih hlater

theorem not_isLast_of_readLines {lines : List (Option String)} {event : FeedEvent}
    (h : event ∈ (readLines every reading lines).2) : event.isLast = false := by
  rcases refused?_of_mem_readLines h with ⟨number, hrefused⟩ | ⟨number, rfl⟩
  · cases event with
    | lineError => rfl
    | _ => cases hrefused
  · rfl

theorem isLast_lastEvent (answer : Except FeedFailure FeedOutcome) :
    (lastEvent answer).isLast = true := by
  cases answer <;> rfl

theorem eq_ok_of_lastEvent {answer : Except FeedFailure FeedOutcome} {outcome : FeedOutcome}
    (h : lastEvent answer = .finished outcome) : answer = .ok outcome := by
  cases answer with
  | ok found => rw [FeedEvent.finished.inj h]
  | error failure => cases h

/-- Of all that is told, just the end is a last word. -/
theorem eventsOfFile_eq_concat (files : FileTree) (path : String) (every : Nat) :
    ∃ earlier last, eventsOfFile files path every = earlier ++ [last] ∧
      (∀ event ∈ earlier, event.isLast = false) ∧ last.isLast = true := by
  have hstarted : ∀ event ∈ [FeedEvent.started], event.isLast = false := by simp [FeedEvent.isLast]
  unfold eventsOfFile
  split
  · exact ⟨[.started], _, rfl, hstarted, rfl⟩
  · exact ⟨[.started], _, rfl, hstarted, rfl⟩
  · next bytes _ =>
    refine ⟨.started :: (read every (lines bytes)).2, _, rfl, fun event hmem => ?_,
      isLast_lastEvent _⟩
    rcases List.mem_cons.1 hmem with rfl | hmem
    · rfl
    · exact not_isLast_of_readLines hmem

/-- Where it is told that a feed was read, it was. -/
theorem exists_read_of_finished {files : FileTree} {path : String} {every : Nat}
    {outcome : FeedOutcome} (h : .finished outcome ∈ eventsOfFile files path every) :
    ∃ lines, (read every lines).1 = .ok outcome := by
  unfold eventsOfFile at h
  split at h
  · simp at h
  · simp at h
  · next bytes _ =>
    refine ⟨lines bytes, ?_⟩
    rcases List.mem_append.1 h with hearlier | hlast
    · rcases List.mem_cons.1 hearlier with hstarted | hmem
      · cases hstarted
      · have hnot := not_isLast_of_readLines hmem
        cases hnot
    · exact eq_ok_of_lastEvent (List.mem_singleton.1 hlast).symm

theorem eventsOfFile_ne_nil (files : FileTree) (path : String) (every : Nat) :
    eventsOfFile files path every ≠ [] := by
  obtain ⟨earlier, last, hevents, -⟩ := eventsOfFile_eq_concat files path every
  rw [hevents]
  exact List.append_ne_nil_of_right_ne_nil _ (List.cons_ne_nil _ _)

/-- Nothing comes after the last word. -/
theorem eq_nil_of_eventsOfFile {files : FileTree} {path : String} {every : Nat}
    {earlier later : List FeedEvent} {event : FeedEvent}
    (h : earlier ++ event :: later = eventsOfFile files path every) (hlast : event.isLast = true) :
    later = [] := by
  obtain ⟨front, last, hevents, hfront, -⟩ := eventsOfFile_eq_concat files path every
  rw [hevents] at h
  rcases List.eq_nil_or_concat later with hnil | ⟨init, final, hfinal⟩
  · exact hnil
  · -- Otherwise the last word would be among those before the end.
    rw [hfinal, List.concat_eq_append, ← List.cons_append, ← List.append_assoc] at h
    have hmem : event ∈ front := by
      rw [← (List.append_inj' h rfl).1]
      exact List.mem_append_right _ List.mem_cons_self
    rw [hfront event hmem] at hlast
    cases hlast

theorem isLast_of_eventsOfFile {files : FileTree} {path : String} {every : Nat}
    {earlier : List FeedEvent} {last : FeedEvent}
    (h : earlier ++ [last] = eventsOfFile files path every) :
    (∀ event ∈ earlier, event.isLast = false) ∧ last.isLast = true := by
  obtain ⟨front, final, hevents, hfront, hfinal⟩ := eventsOfFile_eq_concat files path every
  obtain ⟨rfl, hlast⟩ := List.append_inj' (h.trans hevents) rfl
  obtain rfl := List.singleton_inj.1 hlast
  exact ⟨hfront, hfinal⟩

/-- Something comes after all but the last word. -/
theorem ne_nil_of_eventsOfFile {files : FileTree} {path : String} {every : Nat}
    {earlier later : List FeedEvent} {event : FeedEvent}
    (h : earlier ++ event :: later = eventsOfFile files path every) (hnot : event.isLast = false) :
    later ≠ [] := by
  rintro rfl
  rw [(isLast_of_eventsOfFile h).2] at hnot
  cases hnot

end Feed

end Scoreboard
