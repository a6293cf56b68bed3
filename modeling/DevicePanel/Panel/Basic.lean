import DevicePanel.Panel.Focus
import DevicePanel.Sheet.Basic

/-!
# Panels

A panel lists the parameters of a sheet and has an editor for the selected one.
Its committed values change only by commits, its drafts only by input.
-/

namespace DevicePanel

/-- A parameter in a panel, with what the user has entered for it. -/
structure Entry where
  /-- The parameter with its committed value. -/
  parameter : Parameter
  draft : Draft

namespace Entry

def ofParameter (p : Parameter) : Entry := ⟨p, .mount p.format p.value⟩

def key (e : Entry) : String := e.parameter.key

/-- The committed value as the list shows it. -/
def currentText (e : Entry) : String :=
  DevicePanel.currentText e.parameter.value e.parameter.shownUnits

/-- What the editor of the entry is told. -/
def props (e : Entry) (connected : Bool) : EditorProps where
  committed := e.parameter.value
  format := e.parameter.format
  connected := connected
  compact := e.parameter.compact
  label := some e.parameter.label
  units := e.parameter.units

/-- Replace the committed value. -/
def commit (e : Entry) (value : Value) : Entry :=
  { e with parameter := { e.parameter with value := some value } }

end Entry

/-- A value that has been confirmed for a parameter. -/
structure Commit where
  key : String
  value : Value

/-- A panel.  `listArea` and `editorLayout` say where the list and the editor were
drawn last, for the pointer. -/
structure Panel where
  entries : List Entry
  selected : Option Nat
  /-- The first entry that the list shows. -/
  offset : Nat := 0
  /-- The entry under the pointer. -/
  hovered : Option Nat := none
  focus : Focus := {}
  listArea : Rect := {}
  editorLayout : EditorLayout := {}

namespace Panel

/-- The entry that is selected. -/
def entry? (p : Panel) : Option Entry := p.selected.bind fun i => p.entries[i]?

/-- The entry with a key. -/
def find? (p : Panel) (key : String) : Option Entry := p.entries.find? fun e => e.key == key

/-! ## Selection -/

/-- Select an entry, at most the last one.  Without a selection the list shows its
beginning. -/
def select (p : Panel) (index : Option Nat) : Panel :=
  match index with
  | some i =>
    if p.entries.isEmpty then { p with selected := none, offset := 0 }
    else { p with selected := some (min i (p.entries.length - 1)) }
  | none => { p with selected := none, offset := 0 }

def selectNext (p : Panel) : Panel := p.select (some ((p.selected.map (· + 1)).getD 0))

def selectPrevious (p : Panel) : Panel := p.select (some ((p.selected.map (· - 1)).getD 0))

/-- Note the entry under the pointer, if there is one. -/
def hover (p : Panel) (index : Option Nat) : Panel :=
  { p with hovered := index.filter (· < p.entries.length) }

/-! ## Focus -/

/-- The controls that can have the focus: the list and those of the selected entry's
editor.  A switch has no button. -/
def controls (p : Panel) : List Control :=
  match p.selected, p.entry? with
  | some i, some e =>
    if e.draft.isSwitch then [.list, .editor i .input]
    else [.list, .editor i .input, .editor i .confirm]
  | _, _ => [.list]

def rebuildFocus (p : Panel) : Panel := { p with focus := p.focus.rebuild p.controls }

def moveFocus (p : Panel) (c : Control) : Panel := { p with focus := p.focus.moveTo c }

/-- Give the focus to the field or switch of the selected entry. -/
def focusInput (p : Panel) : Panel :=
  match p.selected, p.entry? with
  | some i, some _ => p.moveFocus (.editor i .input)
  | _, _ => p

/-- Which controls of the selected entry's editor have the focus. -/
def editorFocus (p : Panel) : EditorFocus :=
  match p.selected with
  | some i => p.focus.ofEditor i
  | none => {}

/-- The focus is in the editor. -/
def isEditing (p : Panel) : Bool := p.entry?.isSome && p.editorFocus.any

/-- Select an entry and give the focus to its field or switch. -/
def choose (p : Panel) (index : Nat) : Panel :=
  (p.select (some index)).rebuildFocus.focusInput

/-! ## Values -/

/-- The panel of a sheet's parameters, with the first one selected. -/
def ofParameters (parameters : List Parameter) : Panel :=
  { entries := parameters.map .ofParameter
    selected := if parameters.isEmpty then none else some 0 }

/-- The panel after a commit; nothing when no entry has its key. -/
def commit? (p : Panel) (c : Commit) : Option Panel :=
  if p.entries.any (·.key == c.key) then
    some { p with
      entries := p.entries.map fun e => if e.key == c.key then e.commit c.value else e }
  else none

/-- Change the draft of the selected entry.  The value that comes out is to be
committed under the entry's key. -/
def edit (p : Panel) (f : Entry → Draft × Option Value) : Panel × Option Commit :=
  match p.selected, p.entry? with
  | some i, some e =>
    let (draft, value) := f e
    ({ p with entries := p.entries.set i { e with draft } }, value.map (⟨e.key, ·⟩))
  | _, _ => (p, none)

end Panel

end DevicePanel
