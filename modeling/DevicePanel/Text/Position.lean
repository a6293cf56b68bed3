/-!
# Positions in a text

Places in a text are counted in bytes of its UTF-8 form.  `Position.ofBytes` turns a
byte count into a line, from one, and a column, which is the number of bytes
since the last line break.
-/

namespace DevicePanel.Text

/-- The length of a list of characters in UTF-8. -/
def byteLength (cs : List Char) : Nat :=
  cs.foldl (fun n c => n + c.utf8Size) 0

theorem byteLength_cons (c : Char) (cs : List Char) :
    byteLength (c :: cs) = c.utf8Size + byteLength cs := by
  have hfold : ∀ n, cs.foldl (fun n c => n + c.utf8Size) n = n + byteLength cs := by
    unfold byteLength
    induction cs with
    | nil => simp
    | cons d cs ih =>
        intro n
        rw [List.foldl_cons, List.foldl_cons, ih, ih (0 + d.utf8Size)]
        omega
  rw [byteLength, List.foldl_cons, hfold, Nat.zero_add]

/-- A line and a column. -/
structure Position where
  line : Nat
  column : Nat
  deriving DecidableEq, Repr

namespace Position

/-- The position `bytes` bytes further on. -/
def advance (p : Position) : List Char → Nat → Position
  | [], _ => p
  | c :: cs, bytes =>
    if bytes < c.utf8Size then { p with column := p.column + bytes }
    else if c == '\n' then advance ⟨p.line + 1, 0⟩ cs (bytes - 1)
    else advance { p with column := p.column + c.utf8Size } cs (bytes - c.utf8Size)

/-- The position after the first `bytes` bytes of a text. -/
def ofBytes (cs : List Char) (bytes : Nat) : Position :=
  advance ⟨1, 0⟩ cs bytes

end Position

end DevicePanel.Text
