import DevicePanel.Decimal.Binary64

/-!
# Shortest decimal digits

The decimal with the fewest digits that reads back as a given binary number.
The decimals that read back are those of an interval around the number; the
shortest ones lie on the coarsest grid `10 ^ j` that has a point in it, and of
those the nearest to the number is taken.
-/

namespace DevicePanel.Decimal

/-- `digits · 10 ^ exponent`. -/
structure Scaled where
  digits : Nat
  exponent : Int
  deriving DecidableEq, Repr

/-- The fractions that round to one positive number, over a common denominator.
The ends belong to it when `closed` holds. -/
structure RoundingInterval where
  low : Nat
  value : Nat
  high : Nat
  den : Nat
  closed : Bool

namespace RoundingInterval

/-- The interval of a positive number.  Below a power of two the numbers lie
twice as dense, so the lower half of the interval is half as wide there. -/
def ofBinary64 (x : Binary64) : RoundingInterval :=
  let shift := (x.exponent - 2).toNat
  let narrow := x.mantissa == Binary64.leastFullMantissa && x.exponent != Binary64.minExponent
  { low := (4 * x.mantissa - if narrow then 1 else 2) <<< shift
    value := (4 * x.mantissa) <<< shift
    high := (4 * x.mantissa + 2) <<< shift
    den := 1 <<< (2 - x.exponent).toNat
    closed := x.mantissa % 2 == 0 }

/-- `scaled / (den · unit)` lies in the interval. -/
def contains (i : RoundingInterval) (scaled unit : Nat) : Bool :=
  let below := i.low * unit
  let above := i.high * unit
  if i.closed then below ≤ scaled && scaled ≤ above else below < scaled && scaled < above

/-- The point of the grid `10 ^ j` nearest to the value, of those in the
interval; a tie goes to the even multiple. -/
def onGrid? (i : RoundingInterval) (j : Int) : Option Nat :=
  let step := i.den * Nat.pow 10 j.toNat
  let unit := Nat.pow 10 (-j).toNat
  let target := i.value * unit
  let floor := target / step
  let ceil := if target % step == 0 then floor else floor + 1
  let below := target - floor * step
  let above := ceil * step - target
  match i.contains (floor * step) unit, i.contains (ceil * step) unit with
  | false, false => none
  | true, false => some floor
  | false, true => some ceil
  | true, true =>
    if below < above then some floor
    else if above < below then some ceil
    else some (if floor % 2 == 0 then floor else ceil)

/-- The first grid with a hit among `10 ^ j`, `10 ^ (j - 1)`, …, for `steps` grids. -/
def coarsest (i : RoundingInterval) : Nat → Int → Scaled
  | 0, j => ⟨i.value / i.den, j⟩
  | steps + 1, j =>
    match i.onGrid? j with
    | some d => ⟨d, j⟩
    | none => coarsest i steps (j - 1)

end RoundingInterval

/-- The shortest decimal that reads back as the magnitude of `x`. -/
def shortest (x : Binary64) : Scaled :=
  if x.isZero then ⟨0, 0⟩
  else (RoundingInterval.ofBinary64 x).coarsest 660 309

end DevicePanel.Decimal
