import DevicePanel.Text.Columns
import DevicePanel.Text.Position

/-!
# Line buffers

A line of text with a cursor between two of its characters.  The characters
before the cursor are held from the nearest one, so that every edit happens at
the heads of two lists.  Bytes and columns are measures of what is before the
cursor.
-/

namespace DevicePanel

/-- A line of text and a cursor in it. -/
structure LineBuffer where
  /-- The characters before the cursor, the nearest first. -/
  before : List Char
  /-- The characters behind the cursor. -/
  after : List Char
  deriving DecidableEq

namespace LineBuffer

def empty : LineBuffer := ⟨[], []⟩

instance : Inhabited LineBuffer := ⟨empty⟩

/-- The text with the cursor at its end. -/
def ofText (s : String) : LineBuffer := ⟨s.toList.reverse, []⟩

def toList (b : LineBuffer) : List Char := b.before.reverse ++ b.after

def text (b : LineBuffer) : String := String.ofList b.toList

def isEmpty (b : LineBuffer) : Bool := b.before.isEmpty && b.after.isEmpty

/-- The place of the cursor in bytes. -/
def cursor (b : LineBuffer) : Nat := Text.byteLength b.before

/-- The columns of the characters before the cursor. -/
def cursorColumns (b : LineBuffer) : Nat := Text.totalColumns b.before

/-! ## Moves -/

def moveLeft (b : LineBuffer) : LineBuffer :=
  match b.before with
  | c :: before => ⟨before, c :: b.after⟩
  | [] => b

def moveRight (b : LineBuffer) : LineBuffer :=
  match b.after with
  | c :: after => ⟨c :: b.before, after⟩
  | [] => b

def moveHome (b : LineBuffer) : LineBuffer := ⟨[], b.toList⟩

def moveEnd (b : LineBuffer) : LineBuffer := ⟨b.after.reverse ++ b.before, []⟩

/-- Step over characters as long as they fit into a number of bytes. -/
def advanceBytes (before : List Char) : List Char → Nat → LineBuffer
  | [], _ => ⟨before, []⟩
  | c :: after, bytes =>
    if c.utf8Size ≤ bytes then advanceBytes (c :: before) after (bytes - c.utf8Size)
    else ⟨before, c :: after⟩

/-- Put the cursor at the last character boundary within a number of bytes. -/
def moveToByte (b : LineBuffer) (bytes : Nat) : LineBuffer := advanceBytes [] b.toList bytes

/-- Step over characters up to the first that begins at the column or behind it,
where `passed` columns lie before. -/
def advanceColumns (before : List Char) (column : Nat) : List Char → Nat → LineBuffer
  | [], _ => ⟨before, []⟩
  | c :: after, passed =>
    if column ≤ passed then ⟨before, c :: after⟩
    else advanceColumns (c :: before) column after (passed + Text.columns c)

/-- Put the cursor before the first character that begins at the column or behind
it. -/
def moveToColumn (b : LineBuffer) (column : Nat) : LineBuffer :=
  advanceColumns [] column b.toList 0

/-! ## Edits -/

def insert (b : LineBuffer) (c : Char) : LineBuffer := ⟨c :: b.before, b.after⟩

/-- Insert characters one after the other. -/
def insertAll (b : LineBuffer) (cs : List Char) : LineBuffer := ⟨cs.reverse ++ b.before, b.after⟩

def backspace (b : LineBuffer) : LineBuffer := ⟨b.before.drop 1, b.after⟩

def delete (b : LineBuffer) : LineBuffer := ⟨b.before, b.after.drop 1⟩

/-! ## The text behind each operation -/

theorem toList_moveLeft (b : LineBuffer) : b.moveLeft.toList = b.toList := by
  rcases b with ⟨_ | ⟨c, before⟩, after⟩ <;> simp [moveLeft, toList]

theorem toList_moveRight (b : LineBuffer) : b.moveRight.toList = b.toList := by
  rcases b with ⟨before, _ | ⟨c, after⟩⟩ <;> simp [moveRight, toList]

theorem toList_moveHome (b : LineBuffer) : b.moveHome.toList = b.toList := by
  simp [moveHome, toList]

theorem toList_moveEnd (b : LineBuffer) : b.moveEnd.toList = b.toList := by
  simp [moveEnd, toList]

theorem toList_advanceBytes (before after : List Char) (bytes : Nat) :
    (advanceBytes before after bytes).toList = before.reverse ++ after := by
  induction after generalizing before bytes with
  | nil => rfl
  | cons c after ih =>
    rw [advanceBytes]
    split
    · rw [ih]; simp
    · rfl

theorem toList_moveToByte (b : LineBuffer) (bytes : Nat) :
    (b.moveToByte bytes).toList = b.toList := by
  simp [moveToByte, toList_advanceBytes]

theorem toList_advanceColumns (before after : List Char) (column passed : Nat) :
    (advanceColumns before column after passed).toList = before.reverse ++ after := by
  induction after generalizing before passed with
  | nil => rfl
  | cons c after ih =>
    rw [advanceColumns]
    split
    · rfl
    · rw [ih]; simp

theorem toList_moveToColumn (b : LineBuffer) (column : Nat) :
    (b.moveToColumn column).toList = b.toList := by
  simp [moveToColumn, toList_advanceColumns]

end LineBuffer

end DevicePanel
