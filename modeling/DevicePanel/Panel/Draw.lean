import DevicePanel.Editor.Draw
import DevicePanel.Panel.Basic

/-!
# Drawing panels

The list of the entries stands on the left, the editor of the selected one on the
right.  Drawing scrolls the list to the selected entry and notes where the list and
the editor are; nothing else of the panel changes.
-/

namespace DevicePanel.Panel

/-! ## Layout -/

/-- The list has two fifths of the columns, to the nearest one. -/
def listWidth (width : Nat) : Nat := (4 * width + 5) / 10

def listRect (area : Rect) : Rect := { area with width := listWidth area.width }

def detailsRect (area : Rect) : Rect := area.dropColumns (listWidth area.width)

/-- The area inside the frame of the details, with a free column on both sides. -/
def contentRect (details : Rect) : Rect where
  x := details.x + 2
  y := details.y + 1
  width := details.width - 4
  height := details.height - 2

/-- The row that names the selected entry. -/
def summaryRect (content : Rect) : Rect := { content with height := min 1 content.height }

/-- The area of the editor, below a free row. -/
def editorRect (content : Rect) (height : Nat) : Rect :=
  { content with
    y := content.y + min 2 content.height
    height := min height (content.height - 2) }

/-! ## The list -/

/-- The symbol before the selected entry, and what the others have in its place. -/
def marker : String := "> "
def noMarker : String := "  "
def markerWidth : Nat := 2

/-- The line of an entry: its label, and its value at the right. -/
def entryLine (t : Theme) (width : Nat) (e : Entry) : Line :=
  let value := e.currentText
  let taken := Text.width e.parameter.label.toList + Text.width value.toList + markerWidth
  let valueStyle := if e.parameter.value.isSome then t.secondaryStyle else t.mutedStyle
  [⟨e.parameter.label, t.primaryStyle⟩,
    ⟨String.ofList (List.replicate (width - taken) ' '), .plain⟩,
    ⟨value, valueStyle⟩]

/-- The first entry that a list of some rows shows: as few rows from `offset` as the
selected entry asks for. -/
def scroll (offset count rows : Nat) (selected : Option Nat) : Nat :=
  let offset := min offset (count - 1)
  match selected with
  | none => offset
  | some s =>
    if offset + rows ≤ s then s + 1 - rows
    else min offset s

/-- The panel with the list scrolled in its inner area.  Drawing a list would also correct its
selection: nothing is selected without entries, and behind the last entry the last one is.  That
is left out here, because it changes nothing in a selection that names a row
(`NamesRows.corrected_eq`), and in every state that a run comes to the selection does
(`App.Reachable.namesRows`). -/
def scrolled (p : Panel) (inner : Rect) : Panel :=
  if inner.isEmpty || p.entries.isEmpty then p
  else { p with offset := scroll p.offset p.entries.length inner.height p.selected }

/-- The entries that a list of some rows shows, with their indices. -/
def shownEntries (p : Panel) (rows : Nat) : List (Entry × Nat) :=
  (p.entries.zipIdx.drop p.offset).take rows

def emphasizedSelection (t : Theme) (emphasized : Bool) : Style :=
  if emphasized then t.selectionStyle.bold else t.selectionStyle

/-- Draw an entry into row `y` of the list's inner area. -/
def drawEntry (p : Panel) (t : Theme) (inner : Rect) (c : Canvas) (e : Entry) (index y : Nat) :
    Canvas :=
  let row := { inner with y, height := 1 }
  let isSelected := p.selected == some index
  let c := if p.hovered == some index then c.style row (emphasizedSelection t true) else c
  let text := if p.selected.isSome then row.dropColumns markerWidth else row
  let c := c.label text (entryLine t inner.width e)
  let c :=
    if isSelected then c.style row (emphasizedSelection t (p.focus.isOn .list)) else c
  if p.selected.isSome then
    c.label { row with width := markerWidth } [⟨if isSelected then marker else noMarker, .plain⟩]
  else c

/-- Draw the list of a panel that has been scrolled. -/
def drawList (c : Canvas) (area : Rect) (t : Theme) (p : Panel) : Canvas :=
  let c := c.frame area (t.frame (some "Parameters") (p.focus.isOn .list))
  let inner := area.inner
  if inner.isEmpty then c
  else
    (p.shownEntries inner.height).zipIdx.foldl
      (fun c ((e, index), row) => drawEntry p t inner c e index (inner.y + row)) c

/-! ## The details -/

/-- What is shown instead of an editor. -/
def emptyMessage : String := "No parameters configured"

def summaryLine (t : Theme) (e : Entry) : Line :=
  [⟨e.key, t.accentStyle⟩, ⟨"  " ++ e.parameter.format.tag, t.mutedStyle⟩]

/-- Draw the details of a panel: the screen, and the layout of the editor. -/
def drawDetails (c : Canvas) (area : Rect) (t : Theme) (connected : Bool) (p : Panel) :
    Screen × EditorLayout :=
  let c := c.frame area (t.frame (some "Edit") p.isEditing)
  let content := contentRect area
  match p.entry? with
  | none => (⟨c.paragraph content [[⟨emptyMessage, t.mutedStyle⟩]], none⟩, p.editorLayout)
  | some e =>
    let c := c.paragraph (summaryRect content) [summaryLine t e]
    let props := e.props connected
    let rect := editorRect content props.height
    (Editor.draw c rect t e.draft props p.editorFocus, Editor.layout e.draft props rect)

/-- Draw a panel: the panel afterwards and the screen. -/
def draw (c : Canvas) (area : Rect) (t : Theme) (connected : Bool) (p : Panel) :
    Panel × Screen :=
  let list := listRect area
  let p := p.scrolled list.inner
  let c := drawList c list t p
  let (screen, editorLayout) := drawDetails c (detailsRect area) t connected p
  ({ p with listArea := list, editorLayout }, screen)

/-- What the keys do in a panel. -/
def hints (t : Theme) (connected : Bool) (p : Panel) : Line :=
  let general := t.hints [("↑/↓", " Select  "), ("Tab", " Focus  ")]
  match p.entry? with
  | some e =>
    if p.isEditing then general ++ Editor.hints t e.draft (e.props connected) else general
  | none => general

end DevicePanel.Panel
