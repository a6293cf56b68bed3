import DevicePanel.Screen.Frame

/-!
# Themes

A theme gives colors to roles.  All drawing takes its styles from here, never
colors of its own.
-/

namespace DevicePanel

/-- The colors of a theme by what they are for. -/
structure Theme where
  background : Color
  surface : Color
  mutedSurface : Color
  border : Color
  text : Color
  secondaryText : Color
  mutedText : Color
  primaryAccent : Color
  secondaryAccent : Color
  success : Color
  warning : Color
  error : Color
  selectionBackground : Color
  selectionText : Color
  focus : Color
  deriving DecidableEq

namespace Theme

def primaryStyle (t : Theme) : Style := .ofForeground t.text
def secondaryStyle (t : Theme) : Style := .ofForeground t.secondaryText
def mutedStyle (t : Theme) : Style := .ofForeground t.mutedText
def successStyle (t : Theme) : Style := .ofForeground t.success
def warningStyle (t : Theme) : Style := .ofForeground t.warning
def errorStyle (t : Theme) : Style := .ofForeground t.error

def borderStyle (t : Theme) (focused : Bool) : Style :=
  .ofForeground (if focused then t.focus else t.border)

def selectionStyle (t : Theme) : Style := .filled t.selectionText t.selectionBackground

def accentStyle (t : Theme) : Style := (Style.ofForeground t.primaryAccent).bold

def surfaceStyle (t : Theme) : Style := .filled t.text t.surface

/-- Text in a field is muted when it cannot be edited, and else red when it has been
rejected. -/
def fieldStyle (t : Theme) (valid enabled : Bool) : Style :=
  .filled (if !enabled then t.mutedText else if valid then t.text else t.error) t.surface

def buttonStyle (t : Theme) (enabled focused : Bool) : Style :=
  if enabled then (Style.filled t.background (if focused then t.focus else t.primaryAccent)).bold
  else .filled t.mutedText t.mutedSurface

def badgeStyle (t : Theme) (healthy : Bool) : Style :=
  (Style.filled t.background (if healthy then t.success else t.error)).bold

/-- Pairs of a key and what it does. -/
def hints (t : Theme) (pairs : List (String × String)) : Line :=
  pairs.flatMap fun (key, does) => [⟨key, t.accentStyle⟩, ⟨does, t.mutedStyle⟩]

/-- The frame of a part of the screen. -/
def frame (t : Theme) (title : Option String) (focused : Bool) : Frame where
  surface := t.surfaceStyle
  border := t.borderStyle focused
  title := title.map fun text => ⟨text, t.secondaryStyle.bold⟩

end Theme

end DevicePanel
