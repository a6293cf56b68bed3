import DevicePanel.Screen.Text

/-!
# Frames

A frame is a line around an area, with an optional title in its upper side.
-/

namespace DevicePanel

/-- How a frame looks. -/
structure Frame where
  /-- The style of the whole area. -/
  surface : Style := .plain
  border : Style := .plain
  title : Option Span := none

namespace Canvas

/-- Write a piece of a border. -/
def border (c : Canvas) (symbol : String) (s : Style) (x y : Nat) : Canvas :=
  c.modify x y fun cell => (cell.withSymbol symbol).styled s

/-- Draw the border of an area that is not empty.  The corners are drawn last, the
upper left one after the others. -/
def drawBorder (c : Canvas) (r : Rect) (s : Style) : Canvas :=
  let last := r.bottom - 1
  let edge := r.right - 1
  let across (symbol : String) (cell : Cell) : Cell := (cell.withSymbol symbol).styled s
  let c := c.modifyRows r.x r.y 1 (across "│") r.height
  let c := c.modifyRow r.x r.y (across "─") r.width
  let c := c.modifyRows edge r.y 1 (across "│") r.height
  let c := c.modifyRow r.x last (across "─") r.width
  let c := c.border "┘" s edge last
  let c := c.border "┐" s edge r.y
  let c := c.border "└" s r.x last
  c.border "┌" s r.x r.y

/-- Where the title of a frame is written. -/
def titleArea (r : Rect) (title : Span) : Rect where
  x := r.x + 1
  y := r.y
  width := min title.width (r.width - 2)
  height := 1

/-- Draw a frame around an area. -/
def frame (c : Canvas) (area : Rect) (f : Frame) : Canvas :=
  let r := area.clip c.width c.height
  if r.isEmpty then c
  else
    let c := (c.style r f.surface).drawBorder r f.border
    match f.title with
    | some title => c.label (titleArea r title) [title]
    | none => c

end Canvas

end DevicePanel
