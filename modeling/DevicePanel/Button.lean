import DevicePanel.Theme.Basic

/-!
# Buttons

A button is a filled area with a centered label, with or without a frame.
-/

namespace DevicePanel.Button

/-- How a button is drawn. -/
structure Looks where
  enabled : Bool
  focused : Bool
  framed : Bool

/-- Where the label of a button stands.  Without the room for a frame it keeps one
column apart from both sides. -/
def labelArea (area : Rect) (height : Nat) (framed : Bool) : Rect :=
  let inner := if framed then area.inner else area
  if framed && 3 ≤ height then inner
  else { inner with x := inner.x + 1, width := inner.width - 2 }

/-- The lines of a label. -/
def labelLines (label : String) : List Line :=
  (label.toList.splitOn '\n').map fun cs => [⟨String.ofList cs, .plain⟩]

/-- Draw a button. -/
def draw (c : Canvas) (area : Rect) (t : Theme) (label : String) (looks : Looks) : Canvas :=
  let visible := area.clip c.width c.height
  let c := c.style visible (t.buttonStyle looks.enabled looks.focused)
  let border := if looks.enabled then t.borderStyle looks.focused else t.mutedStyle
  let c := if looks.framed then c.frame visible { border } else c
  c.paragraph (labelArea visible area.height looks.framed) (labelLines label) .center

end DevicePanel.Button
