import DevicePanel.Editor.Basic

/-!
# Focus

The controls of a panel that can have the focus stand in a ring.  At most one of
them has it, and only a control of the ring can get it.
-/

namespace DevicePanel

/-- A control of a panel: the list, or a control of the editor of the entry with
the given index. -/
inductive Control where
  | list
  | editor (entry : Nat) (control : EditorControl)
  deriving DecidableEq

/-- The ring of controls and the one that has the focus. -/
structure Focus where
  ring : List Control := []
  current : Option Control := none
  deriving DecidableEq

namespace Focus

/-- The control has the focus. -/
def isOn (f : Focus) (c : Control) : Bool := f.current == some c

/-- Which controls of the editor of an entry have the focus. -/
def ofEditor (f : Focus) (entry : Nat) : EditorFocus :=
  ⟨f.isOn (.editor entry .input), f.isOn (.editor entry .confirm)⟩

/-- Give the focus to a control of the ring. -/
def moveTo (f : Focus) (c : Control) : Focus :=
  if f.ring.contains c then { f with current := some c } else f

/-- The control that follows `c` in a list, or the first one. -/
def after (c : Control) (ring : List Control) : Option Control :=
  ((ring.dropWhile (· != c)).drop 1).head? <|> ring.head?

/-- Give the focus to the next control of the ring, after the last to the first. -/
def next (f : Focus) : Focus :=
  match f.current with
  | some c => { f with current := after c f.ring }
  | none => { f with current := f.ring.head? }

/-- Give the focus to the control before in the ring, before the first to the last. -/
def previous (f : Focus) : Focus :=
  match f.current with
  | some c => { f with current := after c f.ring.reverse }
  | none => { f with current := f.ring.getLast? }

/-- Replace the ring.  A control that is no longer in it loses the focus. -/
def rebuild (f : Focus) (ring : List Control) : Focus where
  ring := ring
  current := f.current.filter ring.contains

end Focus

end DevicePanel
