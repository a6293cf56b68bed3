/-!
# Binary floating-point numbers

Finite numbers of the 64-bit binary format, held exactly as a sign, a mantissa
and a power of two.  Every operation is a rounding of an exact fraction, so
results can be computed and compared with natural-number arithmetic alone.
-/

namespace DevicePanel.Decimal

/-- The finite number `± mantissa · 2 ^ exponent`. -/
structure Binary64 where
  negative : Bool
  mantissa : Nat
  exponent : Int
  deriving DecidableEq, Repr

namespace Binary64

/-- The least exponent of the format. -/
def minExponent : Int := -1074

/-- The greatest exponent of the format. -/
def maxExponent : Int := 971

/-- The least mantissa of full length; the numbers with the least exponent may have
a shorter one. -/
def leastFullMantissa : Nat := 4503599627370496

/-- Zero with the given sign. -/
def zero (negative : Bool) : Binary64 := ⟨negative, 0, minExponent⟩

def isZero (x : Binary64) : Bool := x.mantissa == 0

/-- The same number with the other sign. -/
def negate (x : Binary64) : Binary64 := { x with negative := !x.negative }

/-- The magnitude as a fraction. -/
def magnitude (x : Binary64) : Nat × Nat :=
  (x.mantissa <<< x.exponent.toNat, 1 <<< (-x.exponent).toNat)

/-- The quotient rounded to the nearest natural number, a half to the even one. -/
def roundDiv (num den : Nat) : Nat :=
  let q := num / den
  let r := num % den
  if 2 * r < den then q
  else if den < 2 * r then q + 1
  else if q % 2 == 0 then q
  else q + 1

/-- The exponent `k` with `2 ^ k ≤ num / den < 2 ^ (k + 1)`. -/
def binaryOrder (num den : Nat) : Int :=
  let k : Int := (num.log2 : Int) - (den.log2 : Int)
  if num <<< (-k).toNat < den <<< k.toNat then k - 1 else k

/-- The nearest number of the format to `± num / den`, a half to the even
mantissa.  There is none when the fraction is beyond the format's range. -/
def ofFraction? (negative : Bool) (num den : Nat) : Option Binary64 :=
  if num == 0 then some (zero negative)
  else
    let e := max minExponent (binaryOrder num den - 52)
    let m := roundDiv (num <<< (-e).toNat) (den <<< e.toNat)
    let x : Binary64 :=
      if m == 2 * leastFullMantissa then ⟨negative, leastFullMantissa, e + 1⟩
      else ⟨negative, m, e⟩
    if x.exponent ≤ maxExponent then some x else none

/-- The nearest number of the format to a natural number below `2 ^ 64`. -/
def ofNat (n : Nat) : Binary64 :=
  (ofFraction? false n 1).getD (zero false)

/-- The rounded product of two magnitudes. -/
def mul? (x y : Binary64) : Option Binary64 :=
  let (a, b) := x.magnitude
  let (c, d) := y.magnitude
  ofFraction? (x.negative != y.negative) (a * c) (b * d)

/-- The rounded quotient of two magnitudes, for `y` other than zero. -/
def div? (x y : Binary64) : Option Binary64 :=
  let (a, b) := x.magnitude
  let (c, d) := y.magnitude
  ofFraction? (x.negative != y.negative) (a * d) (b * c)

/-- The nearest number of the format to `± significand · 10 ^ exponent`. -/
def ofDecimal? (negative : Bool) (significand : Nat) (exponent : Int) : Option Binary64 :=
  ofFraction? negative (significand * Nat.pow 10 exponent.toNat)
    (Nat.pow 10 (-exponent).toNat)

end Binary64

end DevicePanel.Decimal
