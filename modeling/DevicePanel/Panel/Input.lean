import DevicePanel.Panel.Basic

/-!
# Input to a panel

Keys move the focus and the selection or go to the editor that has the focus.  The
pointer selects entries and reaches the editor where they were drawn last.
-/

namespace DevicePanel.Panel

/-- The entry that a row of the screen stands for, as far as the list goes.  The
border above the entries counts as the first of them. -/
def rowIndex (p : Panel) (y : Nat) : Nat := (y - (p.listArea.y + 1)) + p.offset

/-- A key for the editor, if the focus is there. -/
def editorKey (p : Panel) (connected : Bool) (e : KeyEvent) : Panel × Option Commit :=
  if p.isEditing then
    p.edit fun entry => entry.draft.key (entry.props connected) p.editorFocus e
  else (p, none)

/-- A key for the panel. -/
def key (p : Panel) (connected : Bool) (e : KeyEvent) : Panel × Option Commit :=
  match e.key with
  | .tab => ({ p with focus := p.focus.next }, none)
  | .backTab => ({ p with focus := p.focus.previous }, none)
  | .up => ((p.selected.map fun i => p.choose (i - 1)).getD p, none)
  | .down => ((p.selected.map fun i => p.choose (i + 1)).getD p, none)
  | key =>
    if p.focus.isOn .list && (key == .enter || key == .char ' ') then (p.focusInput, none)
    else p.editorKey connected e

/-- A press in the list selects the entry there; below the last one it gives the
focus to the list. -/
def listPress (p : Panel) (y : Nat) : Panel :=
  let index := p.rowIndex y
  if index < p.entries.length then p.choose index else p.moveFocus .list

/-- A press elsewhere goes to the control of the editor there, which gets the
focus. -/
def editorPress (p : Panel) (connected : Bool) (e : PointerEvent) : Panel × Option Commit :=
  match p.editorLayout.control? e.x e.y, p.selected with
  | some control, some i =>
    let p := if p.entry?.isSome then p.moveFocus (.editor i control) else p
    p.edit fun entry => entry.draft.pointer (entry.props connected) p.editorLayout e
  | _, _ => (p, none)

/-- An event of the pointer. -/
def pointer (p : Panel) (connected : Bool) (e : PointerEvent) : Panel × Option Commit :=
  let overList := p.listArea.contains e.x e.y
  match e.action with
  | .press => if overList then (p.listPress e.y, none) else p.editorPress connected e
  | .move => (p.hover (if overList then some (p.rowIndex e.y) else none), none)
  | _ => (p, none)

/-- Pasted text goes into the field that has the focus. -/
def paste (p : Panel) (connected : Bool) (text : String) : Panel :=
  if p.editorFocus.input then
    (p.edit fun entry =>
      (entry.draft.paste (entry.props connected) p.editorFocus text, none)).1
  else p

end DevicePanel.Panel
