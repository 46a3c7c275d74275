import Scoreboard.Toml.Basic
import Scoreboard.Toml.Key

/-!
# Tables in the making

Members are added to a table by dotted keys, and tables to a document by their headers. What was
written already decides what may still be added.

## Main definitions

- `Toml.put` — the members of a table with one more
- `Toml.Header` — how a section of a document is headed
- `Toml.Draft` — a document as far as it was read
- `Toml.Draft.enter` — a document with one more header
- `Toml.Draft.add` — a document with one more member

## Design notes

The section that is being read is kept apart until the next header, so a dotted key cannot leave its
section. A header may name tables that have none yet. A table gets its header once; if it was named
before on the way to another header, it keeps what it holds and moves to the end.
-/

namespace Scoreboard.Toml

/-! ### Members of a table -/

/-- The value of a name. -/
def lookup? (members : List (String × Toml)) (name : String) : Option Toml :=
  (members.find? fun member => member.1 = name).map Prod.snd

/-- The members with the value of a name replaced. -/
def replace (members : List (String × Toml)) (name : String) (value : Toml) :
    List (String × Toml) :=
  members.map fun member => if member.1 = name then (name, value) else member

/-- The members with one more, by the parts of its key. The tables on the way must not be complete,
    and the last one must be made by dotted keys only. The place is that of the section, unless the
    members are those of a table between braces; the trail is the way so far. -/
def put (place : Option (List String)) (name : String) (value : Toml) (trail : List String) :
    List KeyPart → List (String × Toml) → Except Refusal (List (String × Toml))
  | [], members =>
    match lookup? members name with
    | some _ => .error (.taken name place)
    | none => .ok (members ++ [(name, value)])
  | part :: path, members =>
    let trail := trail ++ [part.name]
    match lookup? members part.name with
    | none => do
      let inner ← put place name value trail path []
      return members ++ [(part.name, .table part.span .dotted inner)]
    | some (.table span .dotted inner) => do
      let inner ← put place name value trail path inner
      return replace members part.name (.table span .dotted inner)
    | some (.table span .implied inner) =>
      if path.isEmpty then .error (.taken name none)
      else do
        let inner ← put place name value trail path inner
        return replace members part.name (.table span .implied inner)
    | some (.table _ .header _) => .error (.taken part.name none)
    | some (.table span .inline inner) =>
      match place with
      | some _ => .error (.noTable trail (kind (.table span .inline inner)))
      | none => .error (.taken part.name none)
    | some (.tables items) =>
      match path, items.getLast? with
      | _ :: _, some (span, last) => do
        let last ← put place name value trail path last
        return replace members part.name (.tables (items.dropLast ++ [(span, last)]))
      | _, _ => .error (.taken name none)
    | some other => .error (.noTable trail other.kind)

/-- A member: its key and its value. -/
structure Member where
  key : Key
  value : Toml

/-- The members of a table between braces. -/
def ofMembers (members : List Member) : Except Refusal (List (String × Toml)) :=
  members.foldlM
    (fun entries member => put none member.key.name member.value [] member.key.path entries) []

/-! ### Tables of a document -/

/-- The members of the table at the end of a path; none, if there is no such table yet. Of several
    tables under one name, the last one is meant. -/
def membersAt (trail : List String) :
    List KeyPart → List (String × Toml) → Except Refusal (List (String × Toml))
  | [], members => .ok members
  | part :: path, members =>
    let trail := trail ++ [part.name]
    match lookup? members part.name with
    | none => .ok []
    | some (.table span origin inner) =>
      if origin = .inline then .error (.noTable trail (kind (.table span origin inner)))
      else membersAt trail path inner
    | some (.tables items) =>
      match items.getLast? with
      | some last => membersAt trail path last.2
      | none => .ok []
    | some other => .error (.noTable trail other.kind)

/-- The members changed at the end of a path. Tables that are missing are made; if there is no way,
    nothing is changed. -/
def changeAt (change : List (String × Toml) → List (String × Toml)) :
    List KeyPart → List (String × Toml) → List (String × Toml)
  | [], members => change members
  | part :: path, members =>
    match lookup? members part.name with
    | none => members ++ [(part.name, .table part.span .implied (changeAt change path []))]
    | some (.table span origin inner) =>
      replace members part.name (.table span origin (changeAt change path inner))
    | some (.tables items) =>
      match items.getLast? with
      | some (span, last) =>
        replace members part.name
          (.tables (items.dropLast ++ [(span, changeAt change path last)]))
      | none => members
    | some _ => members

/-- How a section of a document is headed. -/
inductive Header where
  /-- It is the beginning of the document. -/
  | none
  /-- It is a table of its own. -/
  | table (key : Key)
  /-- It is one of several tables. -/
  | item (key : Key)

/-- The names on the way to a section. -/
def Header.place : Header → List String
  | none => []
  | table key => key.names
  | item key => key.names

/-- A document as far as it was read. -/
structure Draft where
  /-- The members of the document, without the section that is being read. -/
  members : List (String × Toml) := []
  /-- The header of the section that is being read. -/
  header : Header := .none
  /-- Where the section stands, from its header to its last member. -/
  span : Span := default
  /-- The members of the section. -/
  current : List (String × Toml) := []

namespace Draft

/-- The members of the document. -/
def close (draft : Draft) : List (String × Toml) :=
  match draft.header with
  | .none => draft.current
  | .table key =>
    changeAt (fun members =>
      members.filter (fun member => member.1 ≠ key.name)
        ++ [(key.name, .table draft.span .header draft.current)])
      key.path draft.members
  | .item key =>
    changeAt (fun members =>
      match lookup? members key.name with
      | some (.tables items) =>
        replace members key.name (.tables (items ++ [(draft.span, draft.current)]))
      | _ => members ++ [(key.name, .tables [(draft.span, draft.current)])])
      key.path draft.members

/-- The document with one more header. A table that was only named on the way to others begins with
    what it holds. -/
def enter (draft : Draft) (header : Header) (span : Span) : Except Refusal Draft := do
  let members := draft.close
  let current ←
    match header with
    | .none => pure []
    | .table key =>
      match lookup? (← membersAt [] key.path members) key.name with
      | none => pure []
      | some (.table _ .implied inner) => pure inner
      | some _ => .error (.taken (writtenKey key.name) (some key.place))
    | .item key =>
      match lookup? (← membersAt [] key.path members) key.name with
      | none => pure []
      | some (.tables _) => pure []
      | some _ => .error (.taken (writtenKey key.name) (some key.place))
  return { members, header, span, current }

/-- The document with one more member in the section that is being read. -/
def add (draft : Draft) (member : Member) : Except Refusal Draft := do
  let key := member.key
  let current ← put (some draft.header.place) key.name member.value [] key.path draft.current
  return { draft with current, span := draft.span.through member.value.span }

end Draft

end Scoreboard.Toml
