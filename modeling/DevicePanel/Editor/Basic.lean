import DevicePanel.Editor.Draft
import DevicePanel.Editor.Layout
import DevicePanel.Input

/-!
# Editors

An editor works on the draft of one parameter.  What the parameter is comes from
outside with every event; the draft afterwards and a value to commit go back.
-/

namespace DevicePanel

/-- What an editor is told about its parameter. -/
structure EditorProps where
  committed : Option Value
  format : Format
  /-- The link is up; without it nothing can be edited. -/
  connected : Bool := true
  compact : Bool := false
  label : Option String := none
  units : Option String := none

namespace EditorProps

/-- Units are only shown with formats that have them. -/
def shownUnits (p : EditorProps) : Option String := p.units.filter fun _ => p.format.hasUnits

/-- The rows that an editor asks for. -/
def height (p : EditorProps) : Nat := if p.compact then 1 else 4

end EditorProps

/-- The controls of an editor: its field or switch, and its button. -/
inductive EditorControl where
  | input
  | confirm
  deriving DecidableEq

/-- Which controls of an editor have the focus. -/
structure EditorFocus where
  input : Bool := false
  confirm : Bool := false
  deriving DecidableEq

namespace EditorFocus

/-- Some control of the editor has the focus. -/
def any (f : EditorFocus) : Bool := f.input || f.confirm

end EditorFocus

namespace EditorLayout

/-- The control at a cell. -/
def control? (l : EditorLayout) (x y : Nat) : Option EditorControl :=
  if l.field.contains x y then some .input
  else if l.confirm.contains x y then some .confirm
  else none

/-- The column where typed text starts. -/
def textColumn (l : EditorLayout) (compact : Bool) : Nat :=
  if compact then l.field.x else l.field.x + 1

end EditorLayout

namespace Draft

/-- The edit that a key stands for. -/
def keyEdit? : Key → Option (LineBuffer → LineBuffer)
  | .backspace => some LineBuffer.backspace
  | .delete => some LineBuffer.delete
  | .char c => if Text.isControl c then none else some (LineBuffer.insert · c)
  | _ => none

/-- The move of the cursor that a key stands for. -/
def keyMove? : Key → Option (LineBuffer → LineBuffer)
  | .left => some LineBuffer.moveLeft
  | .right => some LineBuffer.moveRight
  | .home => some LineBuffer.moveHome
  | .end => some LineBuffer.moveEnd
  | _ => none

/-- A key in the field of a text. -/
def fieldKey (t : TextDraft) (key : Key) : TextDraft :=
  match keyEdit? key with
  | some f => t.edit f
  | none =>
    match keyMove? key with
    | some f => t.move f
    | none => t

/-- Flip a switch and commit its position. -/
def flipAndCommit (d : Draft) : Draft × Option Value :=
  let (d, on) := d.flip
  (d, on.map .bool)

/-- A key in the editor of a text, where `confirm` says that the button has the
focus. -/
def textKey (t : TextDraft) (p : EditorProps) (confirm : Bool) (e : KeyEvent) :
    Draft × Option Value :=
  match e.key with
  | .enter => (Draft.text t).confirm p.format p.committed
  | .escape => ((Draft.text t).clear, none)
  | key => (.text (if confirm || e.isCommand then t else fieldKey t key), none)

/-- A key in an editor. -/
def key (d : Draft) (p : EditorProps) (focus : EditorFocus) (e : KeyEvent) :
    Draft × Option Value :=
  if !p.connected then (d, none)
  else
    match d with
    | .switch _ => if e.flipsSwitch then d.flipAndCommit else (d, none)
    | .text t => textKey t p focus.confirm e

/-- The characters of a pasted text that go into a line. -/
def pastedChars (s : String) : List Char := s.toList.filter fun c => c != '\n' && c != '\r'

/-- Pasted text goes into the field unless the button has the focus. -/
def paste (d : Draft) (p : EditorProps) (focus : EditorFocus) (s : String) : Draft :=
  match d with
  | .switch _ => d
  | .text t =>
    if !p.connected || focus.confirm then d else .text (t.edit (·.insertAll (pastedChars s)))

/-- A press of the pointer in an editor with the given layout.  In a field it moves
the cursor to the character under the pointer. -/
def pointer (d : Draft) (p : EditorProps) (l : EditorLayout) (e : PointerEvent) :
    Draft × Option Value :=
  if !p.connected || e.action != .press then (d, none)
  else
    match l.control? e.x e.y with
    | none => (d, none)
    | some .confirm => d.confirm p.format p.committed
    | some .input =>
      match d with
      | .switch _ => d.flipAndCommit
      | .text t => (.text (t.move (·.moveToColumn (e.x - l.textColumn p.compact))), none)

end Draft

end DevicePanel
