import DevicePanel.Text.Position

/-!
# Places in a YAML text

A mark counts bytes of the text's UTF-8 form, lines, and the characters of a line as
columns, all from zero.  A cursor holds what is
still to be read together with the mark of its first character.  Line breaks are
the carriage return, the line feed, both in this order, the next-line character
and the line and paragraph separators.
-/

namespace DevicePanel.Yaml

/-- A place in a text. -/
structure Mark where
  /-- The number of bytes before the place. -/
  offset : Nat
  line : Nat
  column : Nat
  deriving DecidableEq, Repr

namespace Mark

def start : Mark := ⟨0, 0, 0⟩

/-- The mark is on the first column of the first line. -/
def isStart (m : Mark) : Bool := m.line == 0 && m.column == 0

/-- The mark in words, with lines and columns counted from one. -/
def text (m : Mark) : String := s!"line {m.line + 1} column {m.column + 1}"

end Mark

/-! ## Classes of characters -/

def isBreak (c : Char) : Bool :=
  c == '\r' || c == '\n' || c.toNat == 0x85 || c.toNat == 0x2028 || c.toNat == 0x2029

def isBlank (c : Char) : Bool := c == ' ' || c == '\t'

/-- Letters, digits, the hyphen and the underscore, which make up names. -/
def isWord (c : Char) : Bool := c.isAlphanum || c == '-' || c == '_'

def isFlowIndicator (c : Char) : Bool :=
  c == ',' || c == '[' || c == ']' || c == '{' || c == '}'

/-- The value of a hexadecimal digit. -/
def hexValue? (c : Char) : Option Nat :=
  if c.isDigit then some (c.toNat - 48)
  else if 'a' ≤ c ∧ c ≤ 'f' then some (c.toNat - 87)
  else if 'A' ≤ c ∧ c ≤ 'F' then some (c.toNat - 55)
  else none

/-- The first character is in a class. -/
def headIs (p : Char → Bool) : List Char → Bool
  | c :: _ => p c
  | [] => false

/-- The text ends or goes on with a line break. -/
def atBreakOrEnd : List Char → Bool
  | c :: _ => isBreak c
  | [] => true

/-- The text ends or goes on with a blank or a line break. -/
def atGap : List Char → Bool
  | c :: _ => isBlank c || isBreak c
  | [] => true

/-! ## Cursors -/

/-- The characters still to be read and the place of the first of them. -/
structure Cursor where
  rest : List Char
  mark : Mark

namespace Cursor

def ofList (cs : List Char) : Cursor := ⟨cs, .start⟩

/-- Step over one character, which is no line break. -/
def skip (c : Cursor) : Cursor :=
  match c.rest with
  | [] => c
  | d :: rest => ⟨rest, ⟨c.mark.offset + d.utf8Size, c.mark.line, c.mark.column + 1⟩⟩

def skipN : Nat → Cursor → Cursor
  | 0, c => c
  | n + 1, c => skipN n c.skip

/-- Step over characters that are in a class, up to the first that is not; the
class has no line break in it. -/
def skipWhile (p : Char → Bool) (c : Cursor) : Cursor :=
  let taken := c.rest.takeWhile p
  ⟨c.rest.drop taken.length,
    ⟨c.mark.offset + Text.byteLength taken, c.mark.line, c.mark.column + taken.length⟩⟩

/-- The characters of a class at the cursor, and the cursor behind them. -/
def takeWhile (p : Char → Bool) (c : Cursor) : List Char × Cursor :=
  (c.rest.takeWhile p, c.skipWhile p)

/-- Step over the rest of the line. -/
def skipToBreak (c : Cursor) : Cursor := c.skipWhile (!isBreak ·)

/-- Step over a line break. -/
def skipLine (c : Cursor) : Cursor :=
  match c.rest with
  | '\r' :: '\n' :: rest => ⟨rest, ⟨c.mark.offset + 2, c.mark.line + 1, 0⟩⟩
  | d :: rest =>
    if isBreak d then ⟨rest, ⟨c.mark.offset + d.utf8Size, c.mark.line + 1, 0⟩⟩ else c
  | [] => c

/-- What a line break at the cursor stands for in a value: the separators stand
for themselves, all others for a line feed. -/
def breakText (c : Cursor) : List Char :=
  match c.rest with
  | d :: _ =>
    if d.toNat == 0x2028 || d.toNat == 0x2029 then [d]
    else if isBreak d then ['\n']
    else []
  | [] => []

/-- The cursor is at the start of a line that begins or ends a document. -/
def atDocumentMark (c : Cursor) : Bool :=
  c.mark.column == 0 &&
    match c.rest with
    | '-' :: '-' :: '-' :: rest => atGap rest
    | '.' :: '.' :: '.' :: rest => atGap rest
    | _ => false

end Cursor

end DevicePanel.Yaml
