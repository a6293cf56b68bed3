/-!
# Input from a terminal

The events that a terminal sends: keys, the pointer, pasted text, and changes of
its size and focus.
-/

namespace DevicePanel

/-- The keys that something is done with; all others are alike. -/
inductive Key where
  | char (c : Char)
  | enter
  | escape
  | tab
  | backTab
  | backspace
  | delete
  | left
  | right
  | up
  | down
  | home
  | «end»
  | other
  deriving DecidableEq

/-- The modifiers held down with a key. -/
structure Modifiers where
  control : Bool := false
  alt : Bool := false
  shift : Bool := false
  super : Bool := false
  deriving DecidableEq

/-- What happens to a key. -/
inductive KeyAction where
  | press
  | repeated
  | release
  deriving DecidableEq

/-- An event of a key. -/
structure KeyEvent where
  key : Key
  modifiers : Modifiers := {}
  action : KeyAction := .press
  deriving DecidableEq

namespace KeyEvent

/-- The press of a key without modifiers. -/
def plain (key : Key) : KeyEvent := { key }

/-- A modifier is held down that turns characters into commands. -/
def isCommand (e : KeyEvent) : Bool := e.modifiers.control || e.modifiers.alt

/-- The keys that flip a switch. -/
def flipsSwitch (e : KeyEvent) : Bool :=
  (e.key == .char ' ' || e.key == .enter) && !e.isCommand

end KeyEvent

/-- What happens to the pointer. -/
inductive PointerAction where
  | press
  /-- The press of a button other than the left one. -/
  | otherPress
  | release
  | drag
  | move
  | scroll
  deriving DecidableEq

/-- An event of the pointer at a cell of the screen. -/
structure PointerEvent where
  action : PointerAction
  x : Nat
  y : Nat
  deriving DecidableEq

/-- An event of a terminal. -/
inductive Event where
  | key (e : KeyEvent)
  | pointer (e : PointerEvent)
  | paste (text : String)
  | resize
  | focusGained
  | focusLost
  deriving DecidableEq

end DevicePanel
