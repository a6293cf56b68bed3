import DevicePanel.Text.Combining
import DevicePanel.Text.Property.Columns
import DevicePanel.Text.Property.Visibility

/-!
# Columns of characters

How many columns of a terminal a character takes on its own.
-/

namespace DevicePanel.Text

/-- Controls, which terminals do not show. -/
def isControl (c : Char) : Bool := c.toNat < 0x20 || (0x7F ≤ c.toNat && c.toNat < 0xA0)

/-- The columns of a character on its own.  Controls take none. -/
def columns (c : Char) : Nat :=
  let n := c.toNat
  if isControl c then 0
  else if n < 0xA0 then 1
  else if n == 0x115F || n == 0x17A4 then 2
  else if n == 0x17D8 then 3
  else if n == 0x2D7F then 1
  else if isCombining c || defaultIgnorable.contains c || zeroWidth.contains c then 0
  else if eastAsianWide.contains c then 2
  else 1

/-- The columns of characters that are counted one by one. -/
def totalColumns (cs : List Char) : Nat :=
  cs.foldr (fun c n => columns c + n) 0

@[simp]
theorem totalColumns_nil : totalColumns [] = 0 := rfl

@[simp]
theorem totalColumns_cons (c : Char) (cs : List Char) :
    totalColumns (c :: cs) = columns c + totalColumns cs := rfl

@[simp]
theorem totalColumns_append (cs ds : List Char) :
    totalColumns (cs ++ ds) = totalColumns cs + totalColumns ds := by
  induction cs with
  | nil => simp
  | cons c cs ih => simp [ih, Nat.add_assoc]

@[simp]
theorem totalColumns_reverse (cs : List Char) : totalColumns cs.reverse = totalColumns cs := by
  induction cs with
  | nil => rfl
  | cons c cs ih => simp [ih, Nat.add_comm]

theorem totalColumns_eq_zero_iff (cs : List Char) :
    totalColumns cs = 0 ↔ ∀ c ∈ cs, columns c = 0 := by
  induction cs with
  | nil => simp
  | cons c cs ih => rw [totalColumns_cons, Nat.add_eq_zero_iff, ih, List.forall_mem_cons]

end DevicePanel.Text
