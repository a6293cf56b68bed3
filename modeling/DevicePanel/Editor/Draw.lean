import DevicePanel.Button
import DevicePanel.Editor.Basic
import DevicePanel.Toggle

/-!
# Drawing editors
-/

namespace DevicePanel

/-- What a terminal shows: a canvas and the place of the cursor, if it is shown. -/
structure Screen where
  canvas : Canvas
  cursor : Option (Nat × Nat) := none

namespace Editor

/-- The label of the button. -/
def confirmLabel : String := "Set"

/-- What is shown below or behind a field while the link is down. -/
def offlineMessage : String := "offline: editing disabled"

/-- Columns on a terminal are counted modulo this. -/
def columnLimit : Nat := 65536

def drawLabel (c : Canvas) (l : EditorLayout) (t : Theme) (p : EditorProps)
    (focus : EditorFocus) : Canvas :=
  let style := if focus.any then t.accentStyle else t.secondaryStyle
  let row := { l.label with y := l.field.y + (if p.compact then 0 else 1), height := 1 }
  c.paragraph row [[⟨p.label.getD p.format.prompt, style⟩]]

/-- Where the content of a field is drawn. -/
def contentArea (l : EditorLayout) (p : EditorProps) : Rect :=
  if p.compact then l.field else l.field.inner

/-- Draw the frame of a field, unless the editor is compact. -/
def drawFieldFrame (c : Canvas) (l : EditorLayout) (t : Theme) (p : EditorProps)
    (focus : EditorFocus) : Canvas :=
  if p.compact then c
  else
    let border := if p.connected then t.borderStyle focus.input else t.mutedStyle
    c.frame l.field { border, title := some ⟨p.format.tag, t.mutedStyle⟩ }

/-- The text in a field: an unedited one shows the committed value. -/
def fieldLine (t : Theme) (d : TextDraft) (p : EditorProps) : Line :=
  if d.edited then
    let units := p.shownUnits.map fun units => ⟨" " ++ units, t.mutedStyle⟩
    ⟨d.buffer.text, t.fieldStyle d.error.isNone p.connected⟩ :: units.toList
  else [⟨placeholder p.committed p.shownUnits, t.mutedStyle⟩]

/-- Where the cursor is shown: behind the text before it, but not beyond the
field. -/
def cursor? (area : Rect) (d : TextDraft) (p : EditorProps) (focus : EditorFocus) :
    Option (Nat × Nat) :=
  if p.connected && focus.input && 0 < area.width then
    some (area.x + min (d.buffer.cursorColumns % columnLimit) (area.width - 1), area.y)
  else none

def drawText (c : Canvas) (l : EditorLayout) (t : Theme) (d : TextDraft) (p : EditorProps)
    (focus : EditorFocus) : Screen :=
  let area := contentArea l p
  let c := drawFieldFrame c l t p focus
  let c := c.style area (t.fieldStyle d.error.isNone p.connected)
  let c := c.paragraph area [fieldLine t d p]
  let c := Button.draw c l.confirm t confirmLabel ⟨p.connected, focus.confirm, !p.compact⟩
  ⟨c, cursor? area d p focus⟩

def drawSwitch (c : Canvas) (l : EditorLayout) (t : Theme) (on : Bool) (p : EditorProps)
    (focus : EditorFocus) : Screen :=
  let c := drawFieldFrame c l t p focus
  ⟨Toggle.draw c (contentArea l p) t on p.connected focus.input, none⟩

/-- Draw why nothing can be edited, or why a text was rejected. -/
def drawMessage (c : Canvas) (l : EditorLayout) (t : Theme) (d : Draft) (p : EditorProps) :
    Canvas :=
  if !p.connected then c.paragraph l.message [[⟨offlineMessage, t.warningStyle⟩]]
  else
    match d.error? with
    | some e => c.paragraph l.message [[⟨e.message, t.errorStyle⟩]]
    | none => c

/-- The layout of an editor in an area. -/
def layout (d : Draft) (p : EditorProps) (area : Rect) : EditorLayout :=
  .ofArea d.isSwitch p.compact area

/-- Draw an editor into an area of a canvas. -/
def draw (c : Canvas) (area : Rect) (t : Theme) (d : Draft) (p : EditorProps)
    (focus : EditorFocus) : Screen :=
  let l := layout d p area
  let c := drawLabel c l t p focus
  let s := match d with
    | .switch on => drawSwitch c l t on p focus
    | .text text => drawText c l t text p focus
  { s with canvas := drawMessage s.canvas l t d p }

/-- What the keys do in an editor. -/
def hints (t : Theme) (d : Draft) (p : EditorProps) : Line :=
  if !p.connected then []
  else if d.isSwitch then t.hints [("Space", " Toggle  ")]
  else t.hints [("Enter", " Set  "), ("Esc", " Clear  ")]

end Editor

end DevicePanel
