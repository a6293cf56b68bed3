import DevicePanel.LineBuffer

/-!
# Lines with a byte cursor

A line can also be held as one text and the place of the cursor in bytes.  A text is cut
only where a character begins or where the text ends, and no cursor goes below the first
byte; what asks for more than that fails.  The operations are those of line buffers,
given as data, so that the same ones can be run on both.
-/

namespace DevicePanel

/-- What can be done to a line. -/
inductive LineOp where
  | setText (s : String)
  | moveToByte (bytes : Nat)
  | moveToColumn (column : Nat)
  | clear
  | moveLeft
  | moveRight
  | moveHome
  | moveEnd
  | insert (c : Char)
  | insertText (s : String)
  | backspace
  | delete

namespace LineBuffer

def apply (b : LineBuffer) : LineOp → LineBuffer
  | .setText s => .ofText s
  | .moveToByte bytes => b.moveToByte bytes
  | .moveToColumn column => b.moveToColumn column
  | .clear => .empty
  | .moveLeft => b.moveLeft
  | .moveRight => b.moveRight
  | .moveHome => b.moveHome
  | .moveEnd => b.moveEnd
  | .insert c => b.insert c
  | .insertText s => b.insertAll s.toList
  | .backspace => b.backspace
  | .delete => b.delete

/-- The buffer after some operations on the empty one. -/
def run (ops : List LineOp) : LineBuffer := ops.foldl apply .empty

end LineBuffer

/-! ## Places in a text -/

namespace Text

/-- What is before a byte of a text and what begins with it. -/
def cut? (s : String) (bytes : Nat) : Option (String × String) :=
  (s.pos? ⟨bytes⟩).map fun p => ((s.sliceTo p).copy, (s.sliceFrom p).copy)

/-- The text without its bytes from `start` up to `stop`. -/
def cutOut? (s : String) (start stop : Nat) : Option String :=
  if start ≤ stop then do
    let (before, _) ← cut? s start
    let (_, behind) ← cut? s stop
    return before ++ behind
  else none

/-- The place some bytes before another one. -/
def stepBack? (place bytes : Nat) : Option Nat :=
  if bytes ≤ place then some (place - bytes) else none

/-- The last place up to the given one at which a text can be cut. -/
def lastPlace? (s : String) (place : Nat) : Option Nat :=
  if String.Pos.Raw.isValid s ⟨place⟩ then some place
  else
    match place with
    | 0 => none
    | place + 1 => lastPlace? s place

/-- The place of the first character that begins at the column or behind it, where
`passed` columns and `place` bytes lie before. -/
def columnPlace? (column : Nat) : List Char → (passed place : Nat) → Option Nat
  | [], _, _ => none
  | c :: cs, passed, place =>
    if column ≤ passed then some place
    else columnPlace? column cs (passed + columns c) (place + c.utf8Size)

end Text

/-! ## Operations -/

/-- A text and a cursor that counts the bytes before it. -/
structure IndexedLine where
  text : String
  cursor : Nat
  deriving DecidableEq

namespace IndexedLine

def empty : IndexedLine := ⟨"", 0⟩

/-- What is before the cursor and what is behind it. -/
def parts? (l : IndexedLine) : Option (String × String) := Text.cut? l.text l.cursor

/-- The columns of the characters before the cursor. -/
def cursorColumns? (l : IndexedLine) : Option Nat :=
  l.parts?.map fun (before, _) => Text.totalColumns before.toList

def moveToByte (l : IndexedLine) (bytes : Nat) : Option IndexedLine := do
  let place ← Text.lastPlace? l.text (min bytes l.text.utf8ByteSize)
  return { l with cursor := place }

def moveToColumn (l : IndexedLine) (column : Nat) : IndexedLine :=
  { l with cursor := (Text.columnPlace? column l.text.toList 0 0).getD l.text.utf8ByteSize }

def moveLeft (l : IndexedLine) : Option IndexedLine := do
  let (before, _) ← l.parts?
  match before.back? with
  | none => return l
  | some c => return { l with cursor := ← Text.stepBack? l.cursor c.utf8Size }

def moveRight (l : IndexedLine) : Option IndexedLine := do
  let (_, behind) ← l.parts?
  match behind.front? with
  | none => return l
  | some c => return { l with cursor := l.cursor + c.utf8Size }

def insertText (l : IndexedLine) (s : String) : Option IndexedLine := do
  let (before, behind) ← l.parts?
  return ⟨before ++ s ++ behind, l.cursor + s.utf8ByteSize⟩

def backspace (l : IndexedLine) : Option IndexedLine := do
  let (before, _) ← l.parts?
  match before.back? with
  | none => return l
  | some c =>
    let start ← Text.stepBack? l.cursor c.utf8Size
    return ⟨← Text.cutOut? l.text start l.cursor, start⟩

def delete (l : IndexedLine) : Option IndexedLine := do
  let (_, behind) ← l.parts?
  match behind.front? with
  | none => return l
  | some c => return { l with text := ← Text.cutOut? l.text l.cursor (l.cursor + c.utf8Size) }

def apply (l : IndexedLine) : LineOp → Option IndexedLine
  | .setText s => some ⟨s, s.utf8ByteSize⟩
  | .moveToByte bytes => l.moveToByte bytes
  | .moveToColumn column => l.moveToColumn column
  | .clear => some .empty
  | .moveLeft => l.moveLeft
  | .moveRight => l.moveRight
  | .moveHome => some { l with cursor := 0 }
  | .moveEnd => some { l with cursor := l.text.utf8ByteSize }
  | .insert c => l.insertText (String.singleton c)
  | .insertText s => l.insertText s
  | .backspace => l.backspace
  | .delete => l.delete

/-- The line after some operations on the empty one, unless one of them fails. -/
def run (ops : List LineOp) : Option IndexedLine := ops.foldlM apply .empty

/-- The line as a buffer, if its cursor is where the text can be cut. -/
def toBuffer? (l : IndexedLine) : Option LineBuffer :=
  l.parts?.map fun (before, behind) => ⟨before.toList.reverse, behind.toList⟩

end IndexedLine

end DevicePanel
