import Scoreboard.Grid.Store

/-!
# Widgets

A screen draws a list of widgets, from top to bottom and from left to right. Their places, sizes and
colors are left out.

## Main definitions

- `Widget` — one thing on a screen
- `Action` — what a click on a widget asks for
-/

namespace Scoreboard

/-- The kinds of widget. -/
inductive WidgetKind where
  /-- A text. Some texts are links. -/
  | label
  | button
  /-- A text that can be edited. -/
  | field
  deriving DecidableEq

/-- What a click on a widget asks for. -/
inductive Action where
  /-- To read the feed at the path in the text field. -/
  | parse
  /-- To accept the warnings of the feed. -/
  | accept
  /-- To show the page of the feed. -/
  | advance
  /-- To go back and load another feed. -/
  | loadAnother
  /-- To change what is shown of the page. -/
  | event (event : Event)
  deriving DecidableEq

/-- One thing on a screen. -/
structure Widget where
  kind : WidgetKind
  text : String
  /-- It can be used. -/
  enabled : Bool := true
  /-- What a click on it asks for. -/
  action : Option Action := none
  /-- It is one of several to choose from, and chosen. -/
  lit : Bool := false
  /-- What a field says while it is empty, and a link while the pointer rests on it. -/
  hint : Option String := none
  deriving DecidableEq

namespace Widget

/-- A text. -/
def label (text : String) : Widget where
  kind := .label
  text := text

/-- A text that can be clicked. -/
def link (text hint : String) (action : Action) : Widget where
  kind := .label
  text := text
  action := some action
  hint := some hint

/-- A button. -/
def button (text : String) (action : Action) (enabled : Bool := true) : Widget where
  kind := .button
  text := text
  enabled := enabled
  action := some action

/-- A button that is one of several to choose from. -/
def choice (text : String) (lit : Bool) (action : Action) : Widget where
  kind := .button
  text := text
  action := some action
  lit := lit

/-- A text that can be edited. -/
def field (text hint : String) : Widget where
  kind := .field
  text := text
  hint := some hint

end Widget

end Scoreboard
