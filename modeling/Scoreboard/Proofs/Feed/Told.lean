import Mathlib.Data.List.Induction
import Mathlib.Data.List.ReduceOption
import Scoreboard.Proofs.Feed.Refusal

/-!
# All that is told of a feed

What a reader is told of a feed follows its lines: of each one that it is refused, if it is, and
then how many were read, every so many lines. A line is refused or taken by what the lines before it
describe.

## Main definitions

- `Feed.draftAfter` — what lines describe together
- `Feed.toldOf` — what is told of one line
- `Feed.toldLines` — what is told of lines, one after the other
- `Feed.textLines` — the lines that are read

## Main statements

- `Feed.readLines_append` — what reading comes to after lines that are text
- `Feed.eventsOfFile_eq` — all that is told of the feed at a path

## Design notes

Reading goes from the front, but what is told of a line depends on all lines before it. So the
induction is on the last line that was read.
-/

namespace Scoreboard.Feed

/-- What lines describe together. A line that is refused counts for nothing. -/
def draftAfter (texts : List String) : Draft :=
  texts.zipIdx.foldl
    (fun draft line => (takeLine draft (line.2 + 1) line.1).toOption.getD draft) {}

/-- What is told of a line: that it is refused, if the draft of the lines before it does not take
    it, and then that so many lines were read, if that is to be told. -/
def toldOf (every : Nat) (draft : Draft) (number : Nat) (line : String) : List FeedEvent :=
  (match takeLine draft number line with
    | .ok _ => []
    | .error error => [.lineError number line error])
    ++ if 0 < every ∧ every ∣ number then [.progress number] else []

/-- What is told of lines, one after the other. -/
def toldLines (every : Nat) (texts : List String) : List FeedEvent :=
  texts.zipIdx.flatMap fun line =>
    toldOf every (draftAfter (texts.take line.2)) (line.2 + 1) line.1

/-- The lines that are read: those up to the first one that is no text. -/
def textLines (lines : List (Option String)) : List String :=
  (lines.takeWhile Option.isSome).reduceOption

/-- The lines of the feed at a path; none, if there is no file. -/
def linesOfFile (files : FileTree) (path : String) : List (Option String) :=
  match files.node? path with
  | some (.file bytes) => lines bytes
  | _ => []

/-- How far a feed was read after lines that are text. -/
def readingAfter (every : Nat) (texts : List String) : Reading where
  lines := texts.length
  errors := (refusedLines (toldLines every texts)).length
  draft := draftAfter texts

variable {every : Nat} {reading : Reading}

theorem draftAfter_concat (texts : List String) (line : String) :
    draftAfter (texts ++ [line]) =
      (takeLine (draftAfter texts) (texts.length + 1) line).toOption.getD (draftAfter texts) := by
  unfold draftAfter
  rw [List.zipIdx_append, List.foldl_append]
  simp

theorem toldLines_concat (every : Nat) (texts : List String) (line : String) :
    toldLines every (texts ++ [line]) =
      toldLines every texts ++ toldOf every (draftAfter texts) (texts.length + 1) line := by
  -- The lines before one that was there already stay the same.
  have hfront : ∀ earlier ∈ texts.zipIdx,
      toldOf every (draftAfter ((texts ++ [line]).take earlier.2)) (earlier.2 + 1) earlier.1 =
        toldOf every (draftAfter (texts.take earlier.2)) (earlier.2 + 1) earlier.1 := by
    intro earlier hmem
    have hlt : earlier.2 < texts.length := by
      simpa using List.snd_lt_of_mem_zipIdx hmem
    rw [List.take_append_of_le_length (Nat.le_of_lt hlt)]
  unfold toldLines
  rw [List.zipIdx_append, List.flatMap_append, List.flatMap_congr hfront]
  simp

theorem toldAfter_eq (every number : Nat) :
    toldAfter every number = if 0 < every ∧ every ∣ number then [.progress number] else [] := by
  simp [toldAfter, isProgress, Nat.dvd_iff_mod_eq_zero]

theorem readLine_eq (every : Nat) (reading : Reading) (line : String) :
    readLine every reading line =
      ({ lines := reading.lines + 1
         errors := reading.errors +
          (refusedLines (toldOf every reading.draft (reading.lines + 1) line)).length
         draft :=
          (takeLine reading.draft (reading.lines + 1) line).toOption.getD reading.draft },
        toldOf every reading.draft (reading.lines + 1) line) := by
  unfold toldOf
  rw [← toldAfter_eq, refusedLines_append, refusedLines_toldAfter, List.append_nil]
  cases htake : takeLine reading.draft (reading.lines + 1) line with
  | ok draft => exact readLine_of_ok htake
  | error error => exact readLine_of_error htake

/-- One more line. -/
theorem readLine_readingAfter (every : Nat) (texts : List String) (line : String) :
    readLine every (readingAfter every texts) line =
      (readingAfter every (texts ++ [line]),
        toldOf every (draftAfter texts) (texts.length + 1) line) := by
  rw [readLine_eq, readingAfter, readingAfter, toldLines_concat, refusedLines_append,
    List.length_append, List.length_append, draftAfter_concat]
  rfl

/-- What reading comes to after lines that are text, and what was told by then. -/
theorem readLines_append (every : Nat) (texts : List String) (rest : List (Option String)) :
    readLines every {} (texts.map some ++ rest) =
      ((readLines every (readingAfter every texts) rest).1,
        toldLines every texts ++ (readLines every (readingAfter every texts) rest).2) := by
  induction texts using List.reverseRecOn generalizing rest with
  | nil => rfl
  | append_singleton texts line ih =>
    rw [List.map_append, List.append_assoc]
    refine (ih (some line :: rest)).trans ?_
    rw [readLines, readLine_readingAfter, toldLines_concat, List.append_assoc]

/-- Lines that are text are read to their end. -/
theorem readLines_texts (every : Nat) (texts : List String) :
    readLines every {} (texts.map some) =
      (.ok (readingAfter every texts), toldLines every texts) := by
  have hread := readLines_append every texts []
  rw [List.append_nil] at hread
  exact hread.trans (congrArg _ (List.append_nil _))

/-- A line that is no text ends the reading. -/
theorem readLines_none (every : Nat) (texts : List String) (rest : List (Option String)) :
    readLines every {} (texts.map some ++ none :: rest) =
      (.error .notText, toldLines every texts) :=
  (readLines_append every texts (none :: rest)).trans (congrArg _ (List.append_nil _))

theorem started_not_mem_toldLines (every : Nat) (texts : List String) :
    FeedEvent.started ∉ toldLines every texts := by
  intro hmem
  have hread : FeedEvent.started ∈ (readLines every {} (texts.map some)).2 := by
    rwa [readLines_texts]
  rcases refused?_of_mem_readLines hread with ⟨number, hrefused⟩ | ⟨number, hprogress⟩
  · cases hrefused
  · cases hprogress

/-- The lines of a feed are those that are read, and then nothing or one that is no text. -/
theorem exists_textLines (lines : List (Option String)) :
    lines = (textLines lines).map some ∨
      ∃ rest, lines = (textLines lines).map some ++ none :: rest := by
  unfold textLines
  induction lines with
  | nil => exact .inl rfl
  | cons line rest ih =>
    cases line with
    | none => exact .inr ⟨rest, rfl⟩
    | some line =>
      rw [List.takeWhile_cons_of_pos rfl, List.reduceOption_cons_of_some, List.map_cons]
      exact ih.imp (congrArg _) fun ⟨later, hlater⟩ => ⟨later, congrArg _ hlater⟩

theorem finish_eq_ok {outcome : FeedOutcome} (h : finish reading = .ok outcome) :
    outcome.lines = reading.lines ∧ outcome.errors = reading.errors := by
  unfold finish at h
  split at h
  · cases h
  · split at h
    · cases h
    · obtain rfl := Except.ok.inj h
      exact ⟨rfl, rfl⟩

/-- What is told of a feed on the way, and what its outcome says of it. -/
theorem read_told (every : Nat) (lines : List (Option String)) :
    (read every lines).2 = toldLines every (textLines lines) ∧
      ∀ outcome, (read every lines).1 = .ok outcome →
        outcome.lines = lines.length ∧
          outcome.errors = (refusedLines (toldLines every (textLines lines))).length := by
  generalize htexts : textLines lines = texts
  have hlines := exists_textLines lines
  rw [htexts] at hlines
  unfold read
  rcases hlines with rfl | ⟨rest, rfl⟩
  · rw [readLines_texts, List.length_map]
    exact ⟨rfl, fun outcome houtcome => finish_eq_ok houtcome⟩
  · rw [readLines_none]
    refine ⟨rfl, fun outcome houtcome => ?_⟩
    cases houtcome

/-- All that is told of the feed at a path: that reading starts, then what is to be told of the
    lines that are read, and last whether there is a page. If there is one, it comes with the number
    of all lines and of those that were refused. -/
theorem eventsOfFile_eq (files : FileTree) (path : String) (every : Nat) :
    let told := toldLines every (textLines (linesOfFile files path))
    ∃ last, eventsOfFile files path every = .started :: told ++ [last] ∧ last.isLast = true ∧
      ∀ outcome, last = .finished outcome →
        outcome.lines = (linesOfFile files path).length ∧
          outcome.errors = (refusedLines told).length := by
  unfold eventsOfFile linesOfFile
  cases files.node? path with
  | none => exact ⟨_, rfl, rfl, fun outcome hlast => by cases hlast⟩
  | some node =>
    cases node with
    | folder => exact ⟨_, rfl, rfl, fun outcome hlast => by cases hlast⟩
    | file bytes =>
      obtain ⟨htold, houtcome⟩ := read_told every (lines bytes)
      dsimp only
      rw [← htold] at houtcome ⊢
      exact ⟨lastEvent (read every (lines bytes)).1, rfl, isLast_lastEvent _,
        fun outcome hlast => houtcome outcome (eq_ok_of_lastEvent hlast)⟩

/-- A page comes with the number of the lines that were told to be refused. -/
theorem errors_of_eventsOfFile {files : FileTree} {path : String} {every : Nat}
    {earlier : List FeedEvent} {outcome : FeedOutcome}
    (h : earlier ++ [.finished outcome] = eventsOfFile files path every) :
    outcome.errors = (refusedLines earlier).length := by
  obtain ⟨last, hevents, -, houtcome⟩ := eventsOfFile_eq files path every
  obtain ⟨rfl, hlast⟩ := List.append_inj' (h.trans hevents) rfl
  exact (houtcome outcome (List.singleton_inj.1 hlast).symm).2

/-- That reading starts is told once. -/
theorem started_not_mem_tail (files : FileTree) (path : String) (every : Nat) :
    FeedEvent.started ∉ (eventsOfFile files path every).tail := by
  obtain ⟨last, hevents, hlast, -⟩ := eventsOfFile_eq files path every
  rw [hevents]
  intro hmem
  rcases List.mem_append.1 hmem with htold | hend
  · exact started_not_mem_toldLines _ _ htold
  · rw [← List.mem_singleton.1 hend] at hlast
    cases hlast

/-- Nothing is told before reading starts. -/
theorem eq_nil_of_started {files : FileTree} {path : String} {every : Nat}
    {earlier later : List FeedEvent} {event : FeedEvent}
    (h : earlier ++ event :: later = eventsOfFile files path every) (hstarted : event = .started) :
    earlier = [] := by
  cases earlier with
  | nil => rfl
  | cons first rest =>
    have hmem : event ∈ (eventsOfFile files path every).tail := by
      rw [← h]
      exact List.mem_append_right rest List.mem_cons_self
    exact absurd (hstarted ▸ hmem) (started_not_mem_tail files path every)

end Scoreboard.Feed
