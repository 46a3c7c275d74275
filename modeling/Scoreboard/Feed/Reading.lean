import Scoreboard.Feed.Draft
import Scoreboard.Feed.Line
import Scoreboard.Files.Tree
import Scoreboard.Page.Width
import Scoreboard.Text.Blank

/-!
# Reading a feed

A feed is read line by line. A line that is refused is reported and passed over; a line that is no
text ends the reading.

## Main definitions

- `Feed.lines` — the lines of a feed
- `Reading` — how far a feed was read
- `FeedEvent` — what a reader is told while a feed is read
- `Feed.readLines` — what the lines of a feed describe, and what is told on the way
- `Feed.read` — the page of a feed
- `Feed.eventsOfFile` — all that is told while the feed at a path is read
- `FeedFailure` — why there is no page

## Design notes

Lines end at a line feed, and a carriage return before it belongs to the end; the last line may lack
both. Blank lines count but describe nothing. Whether the tables are even is looked at when all
lines were read, so a row may still be replaced.
-/

namespace Scoreboard

/-- What is wrong with a line. -/
inductive LineError where
  /-- It is no record. -/
  | fault (fault : LineFault)
  /-- The record is refused. -/
  | record (error : RecordError)

/-- The wording of what is wrong with a line. -/
def LineError.message (line : String) : LineError → String
  | .fault f => f.message line
  | .record e => e.message

/-- Why a feed makes no page. -/
inductive FeedFailure where
  /-- A line is no text. -/
  | notText
  /-- The feed is a directory. -/
  | directory
  /-- There is no file of this name. -/
  | noFile (path : String)
  /-- There is no page record. -/
  | noPage
  /-- A row is wider or narrower than its table. -/
  | uneven (row : UnevenRow)
  deriving DecidableEq

/-- The wording of why a feed makes no page. -/
def FeedFailure.message : FeedFailure → String
  | notText => "Failed while reading feed: stream did not contain valid UTF-8"
  | directory => "Failed while reading feed: Is a directory (os error 21)"
  | noFile path =>
    "Failed to open file '" ++ path ++ "': No such file or directory (os error 2)"
  | noPage => "Feed has no page record"
  | uneven row => row.message

/-- The outcome of reading a feed. -/
structure FeedOutcome where
  /-- How many lines were read. -/
  lines : Nat
  /-- How many of them were refused. -/
  errors : Nat
  page : Page
  warnings : List Warning
  deriving DecidableEq

/-- What a reader is told while a feed is read. -/
inductive FeedEvent where
  | started
  /-- So many lines were read. -/
  | progress (lines : Nat)
  /-- A line was refused. -/
  | lineError (number : Nat) (line : String) (error : LineError)
  /-- The feed was read. -/
  | finished (outcome : FeedOutcome)
  /-- The feed makes no page. -/
  | failed (failure : FeedFailure)

/-- How far a feed was read. -/
structure Reading where
  /-- How many lines were read. -/
  lines : Nat := 0
  /-- How many of them were refused. -/
  errors : Nat := 0
  draft : Draft := {}

namespace Feed

/-- The bytes up to each line feed, and what is left after the last one. -/
def splitLines : List UInt8 → List UInt8 → List (List UInt8) × List UInt8
  | before, [] => ([], before.reverse)
  | before, byte :: bytes =>
    if byte = 10 then
      let (lines, rest) := splitLines [] bytes
      ((if before.head? = some 13 then before.tail else before).reverse :: lines, rest)
    else
      splitLines (byte :: before) bytes

/-- The lines of a feed; a line whose bytes are no text is none. -/
def lines (bytes : List UInt8) : List (Option String) :=
  let (lines, rest) := splitLines [] bytes
  (lines ++ if rest.isEmpty then [] else [rest]).map fun line =>
    String.fromUTF8? (ByteArray.mk line.toArray)

/-- The draft after a line. -/
def takeLine (draft : Draft) (number : Nat) (line : String) : Except LineError Draft :=
  if Text.isBlankLine line then .ok draft
  else
    match Record.read line with
    | .error fault => .error (.fault fault)
    | .ok record =>
      match draft.take number record with
      | .error error => .error (.record error)
      | .ok draft => .ok draft

/-- Progress is reported after so many lines. -/
def isProgress (every lines : Nat) : Bool :=
  0 < every && lines % every = 0

/-- One more line: how far the feed was read, and what is told of it. -/
def readLine (every : Nat) (reading : Reading) (line : String) : Reading × List FeedEvent :=
  let number := reading.lines + 1
  let progress := if isProgress every number then [.progress number] else []
  match takeLine reading.draft number line with
  | .ok draft => ({ reading with lines := number, draft }, progress)
  | .error error =>
    ({ reading with lines := number, errors := reading.errors + 1 },
      .lineError number line error :: progress)

/-- What lines describe, and what is told on the way. -/
def readLines (every : Nat) (reading : Reading) :
    List (Option String) → Except FeedFailure Reading × List FeedEvent
  | [] => (.ok reading, [])
  | none :: _ => (.error .notText, [])
  | some line :: rest =>
    let (reading, events) := readLine every reading line
    let (result, later) := readLines every reading rest
    (result, events ++ later)

/-- The outcome of a feed that was read to its end. -/
def finish (reading : Reading) : Except FeedFailure FeedOutcome :=
  match reading.draft.page? with
  | none => .error .noPage
  | some page =>
    match page.unevenRow? with
    | some row => .error (.uneven row)
    | none => .ok ⟨reading.lines, reading.errors, page, reading.draft.warnings⟩

/-- The outcome of a feed, and what is told on the way. Progress is reported every `every` lines,
    and never if that is zero. -/
def read (every : Nat) (lines : List (Option String)) :
    Except FeedFailure FeedOutcome × List FeedEvent :=
  let (result, events) := readLines every {} lines
  (result.bind finish, events)

/-- The last event of a feed. -/
def lastEvent : Except FeedFailure FeedOutcome → FeedEvent
  | .ok outcome => .finished outcome
  | .error failure => .failed failure

/-- All that is told while a feed is read. -/
def events (every : Nat) (lines : List (Option String)) : List FeedEvent :=
  let (result, events) := read every lines
  .started :: events ++ [lastEvent result]

/-- All that is told while the feed at a path is read. -/
def eventsOfFile (files : FileTree) (path : String) (every : Nat) : List FeedEvent :=
  match files.node? path with
  | none => [.started, .failed (.noFile path)]
  | some .folder => [.started, .failed .directory]
  | some (.file bytes) => events every (lines bytes)

end Feed

end Scoreboard
