import DevicePanel.Screen.Rect

/-!
# Layout of an editor

An editor has a label, a field, for texts a button, and a place for messages.  A
compact editor has them side by side; otherwise the message is below the others,
and the field and the button have frames.

Where the width is short the parts keep a part of it in this order: the button
before the label before the field in a tall editor, the gaps before the label
before the button in a compact one.  The label's own width goes by the whole area;
the parts share what of it comes before the greatest column.
-/

namespace DevicePanel

/-- The parts of an editor. -/
structure EditorLayout where
  label : Rect := {}
  field : Rect := {}
  confirm : Rect := {}
  message : Rect := {}
  deriving DecidableEq, Inhabited

namespace EditorLayout

/-- The columns of the button. -/
def confirmWidth : Nat := 7

/-- The columns of a switch, without and with its frame. -/
def switchWidth : Nat := 9
def framedSwitchWidth : Nat := 11

/-- The label has up to 20 columns, but at most a third of the width. -/
def labelWidth (width : Nat) : Nat := min 20 (width / 3)

/-- The widths of parts that stand side by side.  A function that gives them takes the
label's own width and the width that the parts share. -/
structure Columns where
  label : Nat
  field : Nat
  /-- The gaps before and behind the button. -/
  gapBefore : Nat := 0
  confirm : Nat
  gapBehind : Nat := 0
  message : Nat := 0

/-- The nearest number to two thirds of `n`. -/
def twoThirds (n : Nat) : Nat := (4 * n + 3) / 6

def tallText (label width : Nat) : Columns :=
  let confirm := min confirmWidth width
  let label := min label (width - confirm)
  { label, field := width - label - confirm, confirm }

/-- Where the width is short the label and the switch share it evenly, as far as they
need it. -/
def tallSwitch (label width : Nat) : Columns :=
  if label + framedSwitchWidth ≤ width then
    { label, field := framedSwitchWidth, confirm := 0 }
  else
    let label := min label (max ((width + 1) / 2) (width - framedSwitchWidth))
    { label, field := width - label, confirm := 0 }

def compactText (label width : Nat) : Columns :=
  let spare := width - (label + confirmWidth + 2)
  if label + confirmWidth + 2 ≤ width then
    let field := twoThirds spare
    { label, field, gapBefore := 1, confirm := confirmWidth, gapBehind := 1,
      message := spare - field }
  else if 3 ≤ width then
    let label := min label (width - 3)
    { label, field := 0, gapBefore := 1, confirm := width - 2 - label, gapBehind := 1 }
  else { label := 0, field := 0, gapBefore := width / 2, confirm := width % 2,
         gapBehind := width / 2 }

/-- Where the width is short the switch gives way to the label until both are even. -/
def compactSwitch (label width : Nat) : Columns :=
  if label + switchWidth + 2 ≤ width then
    { label, field := switchWidth, gapBefore := 1, confirm := 0, gapBehind := 1,
      message := width - (label + switchWidth + 2) }
  else if 2 * label + 2 ≤ width then
    let field := if 3 < width then width - label - 2 else min 1 width
    let gapBefore := min 1 (width - label - field)
    { label, field, gapBefore, confirm := 0, gapBehind := width - label - field - gapBefore }
  else
    let gapBefore := min 1 (width / 2)
    let label := if width ≤ 1 then 0 else max (width / 2) (width - (switchWidth + 1))
    { label, field := width - gapBefore - label, gapBefore, confirm := 0 }

/-- The parts of an editor in an area of one row of parts. -/
def Columns.inRow (c : Columns) (area : Rect) : EditorLayout :=
  let part (start width : Nat) : Rect := { area with x := area.x + start, width }
  let confirm := c.label + c.field + c.gapBefore
  { label := part 0 c.label
    field := part c.label c.field
    confirm := part confirm c.confirm
    message := part (confirm + c.confirm + c.gapBehind) c.message }

/-- The rows of the parts above the message. -/
def partRows (height : Nat) : Nat := min 3 (max (height - 1) (min height 1))

/-- The layout of a tall editor.  The message begins below the field. -/
def tall (isSwitch : Bool) (area : Rect) : EditorLayout :=
  let height := area.usableHeight
  let rows := partRows height
  let columns := (if isSwitch then tallSwitch else tallText) (labelWidth area.width)
    area.usableWidth
  let parts := columns.inRow { area with height := rows }
  { parts with
    message := {
      x := parts.field.x
      y := area.y + rows
      width := area.width - labelWidth area.width
      height := min 1 (height - rows) } }

def compact (isSwitch : Bool) (area : Rect) : EditorLayout :=
  ((if isSwitch then compactSwitch else compactText) (labelWidth area.width)
    area.usableWidth).inRow area

/-- The layout of an editor. -/
def ofArea (isSwitch isCompact : Bool) (area : Rect) : EditorLayout :=
  if isCompact then compact isSwitch area else tall isSwitch area

end EditorLayout

end DevicePanel
