import Scoreboard.Screen.App

/-!
# Sessions

In a session a user takes one step after the other and waits after each until the screen is at rest.
The user finds widgets by their texts.

## Main definitions

- `Session` — the application and the machine it runs on
- `UserStep` — what the user does
- `Session.take` — the session after a step
- `Session.widgets` — what the screen shows when it is at rest

## Design notes

After a step the application is at rest within two frames. The first one takes up what the step
changed and, if a feed is to be read, all that the reader told; the second one shows what came of
it.
-/

namespace Scoreboard

/-- What the user does. -/
inductive UserStep where
  /-- Puts something at a path, in place of what is there. -/
  | place (path : String) (node : Option FileNode)
  /-- Has the application started on a path. -/
  | setPath (path : Option String)
  /-- Types into the text field, over what is there. -/
  | type (text : String)
  /-- Clicks a widget by its text, after passing over `skipped` others of the same text. -/
  | click (text : String) (skipped : Nat)

/-- The application and the machine it runs on. -/
structure Session where
  host : Host
  app : App := {}

/-- The input of a frame in which nothing is done, but all that the reader told is taken. -/
def App.idleInput (app : App) : Input :=
  { load := { arrivals := (app.load.waiting.getD []).length } }

namespace Session

/-- The session after a frame. -/
def frame (session : Session) (input : Input) : Session :=
  { session with app := (session.app.frame session.host input).1 }

/-- The session after a frame in which nothing is done. -/
def idle (session : Session) : Session :=
  session.frame session.app.idleInput

/-- The session when the application is at rest. -/
def rest (session : Session) : Session :=
  session.idle.idle

/-- What the screen shows. -/
def widgets (session : Session) : List Widget :=
  (session.app.frame session.host session.app.idleInput).2

/-- The screen has a text field. -/
def hasField (session : Session) : Bool :=
  session.widgets.any fun widget => widget.kind = .field

/-- The position and the widget of a text, after some others of the same text. Text fields do not
    count. -/
def find? (session : Session) (text : String) (skipped : Nat) : Option (Nat × Widget) :=
  let found := session.widgets.zipIdx.filter fun entry =>
    entry.1.kind ≠ .field ∧ entry.1.text = text
  (found[skipped]?).map fun entry => (entry.2, entry.1)

/-- The input of a frame in which a widget is clicked. -/
def clickInput (position : Nat) (widget : Widget) : Input where
  load :=
    { parse := widget.action = some .parse
      accept := widget.action = some .accept
      advance := widget.action = some .advance }
  clicked := [position]

/-- The session after a step, at rest; refused, if there is nothing to type into or to click. -/
def take (session : Session) : UserStep → Except String Session
  | .place path node =>
    let files := session.host.files
    let files := match node with
      | some node => files.place path node
      | none => files.remove path
    .ok { session with host := { session.host with files } }
  | .setPath path => .ok ({ session with app := { session.app with path } } : Session).rest
  | .type text =>
    if session.hasField then .ok (session.frame { load := { typed := some text } }).rest
    else .error "text field"
  | .click text skipped =>
    match session.find? text skipped with
    | some (position, widget) => .ok (session.frame (clickInput position widget)).rest
    | none => .error text

end Session

end Scoreboard
