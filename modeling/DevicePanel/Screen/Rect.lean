/-!
# Rectangles

Rectangular areas of a screen, in columns from the left and rows from the top.
-/

namespace DevicePanel

/-- The area of `width` columns and `height` rows whose top left cell is `(x, y)`. -/
structure Rect where
  x : Nat := 0
  y : Nat := 0
  width : Nat := 0
  height : Nat := 0
  deriving DecidableEq, Inhabited

namespace Rect

/-- The first column to the right of the area. -/
def right (r : Rect) : Nat := r.x + r.width

/-- The first row below the area. -/
def bottom (r : Rect) : Nat := r.y + r.height

/-- The greatest column and row. -/
def maxCoordinate : Nat := 65535

/-- How much of the width and of the height comes before the greatest column and row. -/
def usableWidth (r : Rect) : Nat := min r.width (maxCoordinate - r.x)
def usableHeight (r : Rect) : Nat := min r.height (maxCoordinate - r.y)

/-- The area has no cell. -/
def isEmpty (r : Rect) : Bool := r.width == 0 || r.height == 0

def contains (r : Rect) (x y : Nat) : Bool :=
  r.x ≤ x && x < r.right && r.y ≤ y && y < r.bottom

/-- The area inside a frame of one cell.  An area that is too small for a frame has
nothing inside. -/
def inner (r : Rect) : Rect where
  x := min (r.x + 1) r.right
  y := min (r.y + 1) r.bottom
  width := r.width - 2
  height := r.height - 2

/-- The area without its first `n` columns. -/
def dropColumns (r : Rect) (n : Nat) : Rect := { r with x := r.x + n, width := r.width - n }

/-- The part of the area on a screen of the given size. -/
def clip (r : Rect) (width height : Nat) : Rect where
  x := r.x
  y := r.y
  width := min r.right width - r.x
  height := min r.bottom height - r.y

theorem contains_eq_true_iff (r : Rect) (x y : Nat) :
    r.contains x y = true ↔ r.x ≤ x ∧ x < r.right ∧ r.y ≤ y ∧ y < r.bottom := by
  simp [contains, and_assoc]

end Rect

end DevicePanel
