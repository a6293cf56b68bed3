import DevicePanel.Theme.Basic

/-!
# Switches

A switch is drawn as two segments, of which the active one is filled.
-/

namespace DevicePanel.Toggle

def onLabel : String := " ON "
def offLabel : String := " OFF "

/-- The columns of a switch. -/
def width : Nat := onLabel.length + offLabel.length

/-- The style of the active segment. -/
def activeStyle (t : Theme) (on focused : Bool) : Style :=
  let style := Style.filled t.background (if on then t.success else t.secondaryAccent)
  if focused then style.bold.underlined else style

/-- The segments of a switch.  Without the link none of them is active. -/
def segments (t : Theme) (on enabled focused : Bool) : Line :=
  let idle := Style.filled t.mutedText t.mutedSurface
  let active := if enabled then activeStyle t on focused else idle
  [⟨onLabel, if on then active else idle⟩, ⟨offLabel, if on then idle else active⟩]

/-- Draw a switch. -/
def draw (c : Canvas) (area : Rect) (t : Theme) (on enabled focused : Bool) : Canvas :=
  c.paragraph area [segments t on enabled focused]

end DevicePanel.Toggle
