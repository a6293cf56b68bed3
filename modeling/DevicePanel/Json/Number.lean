import DevicePanel.Decimal.Shortest

/-!
# JSON numbers

A number is either an integer of the 64-bit range, signed or unsigned, and then
exact, or a finite binary floating-point number.  `Number.text` writes it.
-/

namespace DevicePanel

/-- A JSON number. -/
inductive Json.Number where
  | integer (value : Int) (inRange : -9223372036854775808 ≤ value ∧ value < 18446744073709551616)
  | float (value : Decimal.Binary64)
  deriving DecidableEq

namespace Json.Number

/-- The integer as an exact number, when it is in range. -/
def ofInt? (i : Int) : Option Number :=
  if h : -9223372036854775808 ≤ i ∧ i < 18446744073709551616 then some (.integer i h) else none

/-- A natural number below `2 ^ 64`. -/
def ofNat (n : Nat) (h : n < 18446744073709551616) : Number :=
  .integer n ⟨by omega, by omega⟩

/-- The number as a natural number, when it is written as one. -/
def toNat? : Number → Option Nat
  | .integer (.ofNat n) _ => some n
  | _ => none

/-- How decimals are laid out: those whose first digit stands for a power of ten
from `least` to `greatest` are written in positional notation, all others with
an exponent. -/
structure DecimalLayout where
  least : Int
  greatest : Int

/-- JSON numbers are positional from `0.00001` up to, and below, `10 ^ 16`. -/
def decimalLayout : DecimalLayout := ⟨-5, 15⟩

/-- The digits of a natural number. -/
def natDigits (n : Nat) : List Char := Nat.toDigits 10 n

/-- The digits of `digits · 10 ^ exponent` laid out in positional notation, with
at least one digit on both sides of the point. -/
def positional (digits : List Char) (exponent : Int) : List Char :=
  match exponent with
  | .ofNat n => digits ++ List.replicate n '0' ++ ['.', '0']
  | .negSucc n =>
    let places := n + 1
    if places < digits.length then
      let whole := digits.length - places
      digits.take whole ++ '.' :: digits.drop whole
    else
      '0' :: '.' :: List.replicate (places - digits.length) '0' ++ digits

/-- The digits in scientific notation, for a first digit that stands for the
power of ten `order`; the exponent has a sign and no padding. -/
def scientific (digits : List Char) (order : Int) : List Char :=
  let mantissa := match digits with
    | d :: e :: ds => d :: '.' :: e :: ds
    | ds => ds
  mantissa ++ 'e' :: (if order < 0 then '-' else '+') :: natDigits order.natAbs

/-- The text of a finite floating-point number. -/
def floatText (x : Decimal.Binary64) : List Char :=
  let d := Decimal.shortest x
  let digits := natDigits d.digits
  let order := d.exponent + digits.length - 1
  let body :=
    if decimalLayout.least ≤ order ∧ order ≤ decimalLayout.greatest then
      positional digits d.exponent
    else scientific digits order
  if x.negative then '-' :: body else body

/-- The text of an integer. -/
def integerText : Int → List Char
  | .ofNat n => natDigits n
  | .negSucc n => '-' :: natDigits (n + 1)

/-- The text of a number: an integer without a point, a float always with a
point or an exponent. -/
def chars : Number → List Char
  | .integer i _ => integerText i
  | .float x => floatText x

end Json.Number

end DevicePanel
