import Scoreboard.Proofs.Screen.Stage

/-!
# Reading a feed in the background

The reader tells of a feed line by line, and the load screen takes what it tells in its frames, as
it comes. Whatever is done meanwhile, the screen is at each frame what the events make it that were
taken by then, and the reader has the last word.

## Main definitions

- `LoadScreen.Reads` — a feed is being read, and so much was told of it

## Main statements

- `LoadScreen.Reads.refresh` — what a frame takes while the last word is still to come
- `LoadScreen.Reads.refresh_last` — what a frame takes with the last word
- `App.run_hears` — what the reader tells, and what the load screen makes of it

## Design notes

What was told is a part of the history of the run. So nothing has to be said about how the events
were spread over the frames.
-/

namespace Scoreboard

namespace LoadScreen

/-- The feed that was asked for last is being read. Of its events `told` were taken, in whatever
    frames, and that made the screen what it is; `front` and the last one are still to come. -/
structure Reads (history : List Happening) (screen : LoadScreen) (files : FileTree) (path : String)
    (settings : Settings) (told front : List FeedEvent) (last : FeedEvent) : Prop where
  asked : ∃ since, AskedLast history files path since ∧ since.filterMap Happening.told? = told
  settings_eq : Settings.load files (FilePath.folder path) = .ok settings
  events_eq : told ++ front ++ [last] =
    Feed.eventsOfFile files path settings.presentation.progressEvery.toNat
  screen_eq : screen = during path settings told (front ++ [last])

variable {history : List Happening} {screen : LoadScreen}

theorem Stage.reads (h : Stage history screen) (hparsing : screen.parsing = true) :
    ∃ files path settings told front last,
      Reads history screen files path settings told front last := by
  cases h with
  | without hnot => rw [hnot] at hparsing; cases hparsing
  | finished _ hnot => rw [hnot] at hparsing; cases hparsing
  | @reading files path since settings events hasked hload htold _ hnext hscreen =>
    have hevents := List.dropLast_append_getLast hnext
    refine ⟨files, path, settings, _, events.dropLast, events.getLast hnext,
      ⟨since, hasked, rfl⟩, hload, ?_, ?_⟩
    · rw [List.append_assoc, hevents, htold]
    · rw [hevents, hscreen]

theorem Stage.waiting_of_not_parsing (h : Stage history screen)
    (hparsing : screen.parsing = false) : screen.waiting = none := by
  cases h with
  | without _ _ hwaiting => exact hwaiting
  | reading _ _ _ _ _ hscreen => rw [hscreen] at hparsing; cases hparsing
  | finished _ _ _ hwaiting => exact hwaiting

namespace Reads

variable {files : FileTree} {path : String} {settings : Settings} {told front : List FeedEvent}
  {last : FeedEvent}

theorem isLast_eq_false_of_mem (h : Reads history screen files path settings told front last) :
    ∀ event ∈ front, event.isLast = false :=
  fun event hmem =>
    (Feed.isLast_of_eventsOfFile h.events_eq).1 event (List.mem_append_right told hmem)

theorem started_not_mem (h : Reads history screen files path settings told front last) :
    .started ∉ (told ++ front ++ [last]).tail := by
  rw [h.events_eq]
  exact Feed.started_not_mem_tail files path _

/-- The events that a frame takes come on top of those that were taken before. -/
theorem refresh (h : Reads history screen files path settings told front last)
    (inUse : Option String) {arrivals : Nat} (harrivals : arrivals ≤ front.length) :
    screen.refresh inUse arrivals =
      during path settings (told ++ front.take arrivals) (front.drop arrivals ++ [last]) := by
  rw [h.screen_eq, refresh_during]
  exact pump_during_take path settings h.isLast_eq_false_of_mem h.started_not_mem harrivals

/-- With the last word reading ends. If there is a page, the number of refused lines stays. -/
theorem refresh_last (h : Reads history screen files path settings told front last)
    (inUse : Option String) {arrivals : Nat} (harrivals : front.length < arrivals) :
    let next := screen.refresh inUse arrivals
    next.parsing = false ∧ next.waiting = none ∧
      ∀ outcome, last = .finished outcome →
        next.errorCount = (Feed.refusedLines (told ++ front)).length ∧
          next.status.errors? = some next.errorCount := by
  have hlast := (Feed.isLast_of_eventsOfFile h.events_eq).2
  obtain ⟨before, hpump⟩ :=
    pump_during_last path settings h.isLast_eq_false_of_mem h.started_not_mem hlast harrivals
  obtain ⟨hwaiting, hdone⟩ := take_last hlast before
  rw [h.screen_eq, refresh_during, hpump]
  refine ⟨hdone, hwaiting, ?_⟩
  rintro outcome rfl
  obtain ⟨hcount, hshown⟩ := before.errors_take_finished outcome
  rw [hcount, ← Feed.errors_of_eventsOfFile h.events_eq]
  exact ⟨rfl, hshown⟩

end Reads

end LoadScreen

namespace App

/-- What a reader tells of a feed, and what the load screen makes of it. The reader tells that it
    starts, then of each line in turn that it is refused, if it is, and how many were read, if that
    is to be told, and last whether there is a page, with the number of all lines and of those that
    were refused.

    In every run, as long as the last word was not taken, the load screen is what the events make it
    that were taken since the feed was asked for, and a frame adds those that it takes. With the
    last word reading ends, and the number of refused lines that is shown stays. The reader is never
    gone without a last word. -/
theorem run_hears (inputs : List (Host × Input)) :
    let load := (({} : App).run inputs).load
    (∀ files path every,
        let told := Feed.toldLines every (Feed.textLines (Feed.linesOfFile files path))
        ∃ last, Feed.eventsOfFile files path every = .started :: told ++ [last] ∧
          last.isLast = true ∧
          ∀ outcome, last = .finished outcome →
            outcome.lines = (Feed.linesOfFile files path).length ∧
              outcome.errors = (Feed.refusedLines told).length) ∧
      (load.parsing = true → ∃ files path settings told front last,
        load.Reads (({} : App).history inputs) files path settings told front last ∧
          ∀ inUse arrivals,
            let next := load.refresh inUse arrivals
            (arrivals ≤ front.length →
              next = LoadScreen.during path settings (told ++ front.take arrivals)
                (front.drop arrivals ++ [last])) ∧
            (front.length < arrivals →
              next.parsing = false ∧ next.waiting = none ∧
                ∀ outcome, last = .finished outcome →
                  next.errorCount = (Feed.refusedLines (told ++ front)).length ∧
                    next.status.errors? = some next.errorCount)) ∧
      (load.parsing = false → load.waiting = none) ∧
      ∀ inUse arrivals, (load.refresh inUse arrivals).failure ≠ some .disconnected := by
  intro load
  have hstage : load.Stage (({} : App).history inputs) := (follows_run inputs).stage
  refine ⟨Feed.eventsOfFile_eq, fun hparsing => ?_, hstage.waiting_of_not_parsing,
    fun inUse arrivals => (hstage.refresh inUse arrivals).failure_ne⟩
  obtain ⟨files, path, settings, told, front, last, hreads⟩ := hstage.reads hparsing
  exact ⟨files, path, settings, told, front, last, hreads,
    fun inUse arrivals => ⟨hreads.refresh inUse, hreads.refresh_last inUse⟩⟩

/-- A machine with a feed of which one line is refused. -/
def refusedLine : Host where
  files :=
    { nodes := [(["feed"],
        .file ("[\"page\",[\"Open\"]]\noops\n[\"element\",[\"e\"]]\n".toUTF8.data.toList))] }
  year := 2025

/-- The feed is asked for, and then two events have arrived. -/
def hearRefusedLine : List (Host × Input) :=
  [(refusedLine, { load := { chosen := some "/feed", parse := true } }),
    (refusedLine, { load := { arrivals := 2 } })]

/-- After that, the last word is still to come. -/
theorem run_hears_refusedLine :
    let load := (({} : App).run hearRefusedLine).load
    load.parsing = true ∧ load.errorCount = 1 ∧ ∃ files path settings told front last,
      load.Reads (({} : App).history hearRefusedLine) files path settings told front last ∧
        ∀ inUse arrivals,
          let next := load.refresh inUse arrivals
          (arrivals ≤ front.length →
            next = LoadScreen.during path settings (told ++ front.take arrivals)
              (front.drop arrivals ++ [last])) ∧
          (front.length < arrivals →
            next.parsing = false ∧ next.waiting = none ∧
              ∀ outcome, last = .finished outcome →
                next.errorCount = (Feed.refusedLines (told ++ front)).length ∧
                  next.status.errors? = some next.errorCount) := by
  have hparsing : (({} : App).run hearRefusedLine).load.parsing = true := by decide +kernel
  have hcount : (({} : App).run hearRefusedLine).load.errorCount = 1 := by decide +kernel
  exact ⟨hparsing, hcount, (run_hears hearRefusedLine).2.1 hparsing⟩

end App

end Scoreboard
