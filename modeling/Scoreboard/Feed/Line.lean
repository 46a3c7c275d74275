import Scoreboard.Feed.Record
import Scoreboard.Json.Printer
import Scoreboard.Json.Skip

/-!
# Records as lines

A feed has one record a line. The record is looked at while its line is read, so what is wrong first
in the text decides, be it the text or the record.

## Main definitions

- `LineFault` — what is wrong with a line
- `Record.read` — the record of a line

## Design notes

Members that a record does not have are passed over with `Json.skipValue`. The kind of a record is
looked at as soon as it is read, its data only have to be a value.
-/

namespace Scoreboard

/-- What is wrong with a line that should be a record. -/
inductive LineFault where
  /-- It is no JSON. -/
  | malformed (problem : Json.Problem)
  /-- It is JSON as far as it was read, but no record. -/
  | refused (error : DecodeError) (unread : List Char)

/-- The wording of a fault in a line. -/
def LineFault.message (line : String) : LineFault → String
  | malformed problem => problem.describe line
  | refused error unread => Json.located line unread 0 (error.message Json.realStyle)

namespace Record

/-- A step of the JSON reader. -/
def lift {α : Type} : Except Json.Problem α → Except LineFault α
  | .ok a => .ok a
  | .error problem => .error (.malformed problem)

/-- A value of the wrong kind comes next. Lists and objects are refused before they are read. -/
def wrongNext {α : Type} (wanted : Wanted) : List Char → Except LineFault α
  | '[' :: rest => .error (.refused (.wrongType .sequence wanted) ('[' :: rest))
  | '\x7b' :: rest => .error (.refused (.wrongType .map wanted) ('\x7b' :: rest))
  | cs => do
    let (json, rest) ← lift (Json.readValue 0 cs)
    .error (.refused (.wrongType json.found wanted) rest)

/-- The kind of a name that was read. -/
def chooseKind (name : String) (rest : List Char) : Except LineFault RecordKind :=
  match chooseFrom RecordKind.choices name with
  | .ok kind => .ok kind
  | .error error => .error (.refused error rest)

/-- The name of a kind, which is due. -/
def readKindName (cs : List Char) : Except LineFault (Json.Parsed RecordKind) :=
  match Json.skipSpace cs with
  | [] => lift (Json.stopAhead .endInValue [])
  | '"' :: rest => do
    let (name, rest) ← lift (Json.readText rest)
    return (← chooseKind name rest, rest)
  | cs => lift (Json.stopAhead .noName cs)

/-- The text after a null, which is due. -/
def readNull (cs : List Char) : Except LineFault (List Char) :=
  match Json.skipSpace cs with
  | [] => lift (Json.stopAhead .endInValue [])
  | 'n' :: rest => lift (Json.readWord ['u', 'l', 'l'] rest)
  | cs => wrongNext .unit cs

/-- The text after the end of an object, which is due. -/
def readObjectEnd (cs : List Char) : Except LineFault (List Char) :=
  match Json.skipSpace cs with
  | [] => lift (Json.stop .endInObject [])
  | '\x7d' :: rest => .ok rest
  | cs => lift (Json.stop .noValue cs)

/-- The kind of a record: its name, or an object whose only member has its name and no value. -/
def readKind (cs : List Char) : Except LineFault (Json.Parsed RecordKind) :=
  match Json.skipSpace cs with
  | [] => lift (Json.stopAhead .endInValue [])
  | '"' :: rest => readKindName ('"' :: rest)
  | '\x7b' :: rest => do
    let (kind, rest) ← readKindName rest
    let rest ← readNull (← lift (Json.readColon rest))
    return (kind, ← readObjectEnd rest)
  | cs => lift (Json.stopAhead .noValue cs)

/-- How deep the data of a record may be nested, the record itself being one layer. -/
def dataDepth : Nat := Json.depthLimit - 1

/-- The data of a record: none if they are null. -/
def readData (cs : List Char) : Except LineFault (Json.Parsed (Option Json)) := do
  let (json, rest) ← lift (Json.readValue dataDepth cs)
  match json with
  | .null => return (none, rest)
  | json => return (some json, rest)

/-- The members of a record that is written as an object, and the text after its end. -/
def readFields : Nat → Bool → Parts → List Char → Except LineFault (Json.Parsed Parts)
  | 0, _, _, cs => lift (Json.stop .endInObject cs)
  | steps + 1, first, parts, cs => do
    match ← lift (Json.nextName first cs) with
    | (none, rest) => return (parts, rest)
    | (some "type", rest) =>
      if parts.kind.isSome then throw (.refused (.duplicate "type") (Json.skipSpace rest))
      let (kind, rest) ← readKind (← lift (Json.readColon rest))
      readFields steps false { parts with kind := some kind } rest
    | (some "data", rest) =>
      if parts.data.isSome then throw (.refused (.duplicate "data") (Json.skipSpace rest))
      let (data, rest) ← readData (← lift (Json.readColon rest))
      readFields steps false { parts with data := some data } rest
    | (some _, rest) =>
      let rest ← lift (Json.skipValue (← lift (Json.readColon rest)))
      readFields steps false parts rest

/-- The items of a record that is written as a list, and the text after its end. -/
def readItems (cs : List Char) : Except LineFault (Json.Parsed Parts) := do
  match ← lift (Json.nextItem true cs) with
  | (false, rest) => return ({}, rest)
  | (true, rest) =>
    let (kind, rest) ← readKind rest
    match ← lift (Json.nextItem false rest) with
    | (false, rest) => return ({ kind := some kind }, rest)
    | (true, rest) =>
      let (data, rest) ← readData rest
      match Json.skipSpace rest with
      | [] => lift (Json.stopAhead .endInArray [])
      | ']' :: rest => return ({ kind := some kind, data := some data }, rest)
      | ',' :: rest =>
        match Json.skipSpace rest with
        | ']' :: rest => lift (Json.stopAhead .trailingComma (']' :: rest))
        | rest => lift (Json.stopAhead .trailingCharacters rest)
      | rest => lift (Json.stopAhead .trailingCharacters rest)

/-- The record of the fields that were read. -/
def finishRead (form : Form) (fields : Json.Parsed Parts) :
    Except LineFault (Json.Parsed Record) :=
  match fields.1.finish form with
  | .ok record => .ok (record, fields.2)
  | .error error => .error (.refused error fields.2)

/-- The record at the front of a text. -/
def readFront (cs : List Char) : Except LineFault (Json.Parsed Record) :=
  match Json.skipSpace cs with
  | [] => lift (Json.stopAhead .endInValue [])
  | '\x7b' :: rest => do finishRead .members (← readFields (rest.length + 1) true {} rest)
  | '[' :: rest => do finishRead .items (← readItems rest)
  | cs => wrongNext (.record shape.name) cs

/-- The record of a line. -/
def read (line : String) : Except LineFault Record := do
  let (record, rest) ← readFront line.toList
  lift (Json.atEnd rest)
  return record

end Record

end Scoreboard
