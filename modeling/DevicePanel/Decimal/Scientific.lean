import DevicePanel.Decimal.Binary64

/-!
# Scaling by powers of ten

A quick way to read decimals: round the digits, then multiply or divide once by
a rounded power of ten.  Two or more roundings add up, so a result may be one
unit away from the nearest number of the format.
-/

namespace DevicePanel.Decimal.Binary64

/-- The greatest power of ten of the format. -/
def greatestTenPower : Nat := 308

/-- The number nearest to `10 ^ k`, for `k` up to `greatestTenPower`. -/
def tenPower (k : Nat) : Binary64 :=
  (ofFraction? false (Nat.pow 10 k) 1).getD (zero false)

/-- Divide by `10 ^ k`, in steps of the greatest power of ten. -/
def scaleDown (x : Binary64) (k : Nat) : Binary64 :=
  if k ≤ greatestTenPower then (div? x (tenPower k)).getD x
  else if x.isZero then x
  else scaleDown ((div? x (tenPower greatestTenPower)).getD x) (k - greatestTenPower)
termination_by k
decreasing_by simp only [greatestTenPower] at *; omega

/-- Multiply by `10 ^ k`; nothing when the product is beyond the format's range. -/
def scaleUp? (x : Binary64) (k : Nat) : Option Binary64 :=
  if k ≤ greatestTenPower then mul? x (tenPower k)
  else if x.isZero then some x
  else none

/-- `significand · 10 ^ exponent`, rounded in steps. -/
def scaled? (significand : Nat) : Int → Option Binary64
  | .ofNat k => scaleUp? (ofNat significand) k
  | .negSucc k => some (scaleDown (ofNat significand) (k + 1))

end DevicePanel.Decimal.Binary64
