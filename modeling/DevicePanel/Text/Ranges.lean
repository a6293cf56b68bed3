/-!
# Tables of code points

A set of characters given by the ranges of its code points, in ascending order
and apart from each other, and membership by bisection.
-/

namespace DevicePanel.Text

/-- A set of code points as ascending ranges, each with its first and last one. -/
structure Ranges where
  bounds : Array (Nat × Nat)

namespace Ranges

/-- Whether `n` is in one of the ranges from `low` up to `high`. -/
def search (bounds : Array (Nat × Nat)) (n low high : Nat) : Bool :=
  if _h : low < high then
    let middle := (low + high) / 2
    match bounds[middle]? with
    | none => false
    | some (first, last) =>
      if n < first then search bounds n low middle
      else if last < n then search bounds n (middle + 1) high
      else true
  else false
termination_by high - low
decreasing_by all_goals omega

def contains (r : Ranges) (c : Char) : Bool :=
  search r.bounds c.toNat 0 r.bounds.size

end Ranges

end DevicePanel.Text
