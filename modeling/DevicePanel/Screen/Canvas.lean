import DevicePanel.Screen.Rect
import DevicePanel.Screen.Style
import DevicePanel.Text.Width

/-!
# Canvases

A canvas is a grid of cells.  Every change goes through `Canvas.modify`, which
changes one cell, and none outside the canvas.
-/

namespace DevicePanel

/-- What a terminal shows at one place. -/
structure Cell where
  symbol : String
  foreground : Color
  background : Color
  emphasis : Emphasis
  deriving DecidableEq, Inhabited

namespace Cell

def blank : Cell := ⟨" ", .reset, .reset, .none⟩

/-- Change the looks of a cell. -/
def styled (c : Cell) (s : Style) : Cell where
  symbol := c.symbol
  foreground := s.foreground.getD c.foreground
  background := s.background.getD c.background
  emphasis := c.emphasis.union s.emphasis

/-- Put a symbol into a cell. -/
def withSymbol (c : Cell) (symbol : String) : Cell := { c with symbol }

/-- Add a symbol to the one in a cell. -/
def append (c : Cell) (symbol : String) : Cell := { c with symbol := c.symbol ++ symbol }

/-- The columns that the symbol takes, at least one. -/
def columns (c : Cell) : Nat := max 1 (Text.symbolWidth c.symbol.toList)

end Cell

/-- A grid of cells, held row by row. -/
structure Canvas where
  width : Nat
  height : Nat
  cells : Array Cell
  size_cells : cells.size = width * height

namespace Canvas

/-- A canvas without anything on it. -/
def blank (width height : Nat) : Canvas where
  width := width
  height := height
  cells := Array.replicate (width * height) .blank
  size_cells := by simp

/-- The whole canvas. -/
def area (c : Canvas) : Rect := { width := c.width, height := c.height }

/-- The cell at a place, blank outside the canvas. -/
def cell (c : Canvas) (x y : Nat) : Cell :=
  if x < c.width ∧ y < c.height then c.cells[y * c.width + x]?.getD .blank else .blank

/-- Change the cell at a place. -/
def modify (c : Canvas) (x y : Nat) (f : Cell → Cell) : Canvas :=
  if x < c.width ∧ y < c.height then
    { c with
      cells := c.cells.modify (y * c.width + x) f
      size_cells := by simp [c.size_cells] }
  else c

/-- Change the cells of one row from column `x` on. -/
def modifyRow (c : Canvas) (x y : Nat) (f : Cell → Cell) : Nat → Canvas
  | 0 => c
  | n + 1 => modifyRow (c.modify x y f) (x + 1) y f n

/-- Change the cells of `columns` columns and a number of rows from row `y` on. -/
def modifyRows (c : Canvas) (x y columns : Nat) (f : Cell → Cell) : Nat → Canvas
  | 0 => c
  | n + 1 => modifyRows (c.modifyRow x y f columns) x (y + 1) columns f n

/-- Change every cell of an area. -/
def modifyArea (c : Canvas) (r : Rect) (f : Cell → Cell) : Canvas :=
  let r := r.clip c.width c.height
  c.modifyRows r.x r.y r.width f r.height

/-- Change the looks of an area. -/
def style (c : Canvas) (r : Rect) (s : Style) : Canvas := c.modifyArea r (·.styled s)

/-- The cells of a row that can be seen, from column `x` on: a symbol of several
columns hides the cells behind it.  At most `n` cells are looked at. -/
def visibleFrom (c : Canvas) (y x : Nat) : Nat → List Cell
  | 0 => []
  | n + 1 =>
    if x < c.width then
      let here := c.cell x y
      here :: visibleFrom c y (x + here.columns) n
    else []

/-- The rows of the canvas with the cells that can be seen. -/
def rows (c : Canvas) : List (List Cell) :=
  (List.range c.height).map fun y => c.visibleFrom y 0 c.width

/-! ## Cells after a change -/

@[simp] theorem width_modify (c : Canvas) (x y : Nat) (f : Cell → Cell) :
    (c.modify x y f).width = c.width := by
  unfold modify; split <;> rfl

@[simp] theorem height_modify (c : Canvas) (x y : Nat) (f : Cell → Cell) :
    (c.modify x y f).height = c.height := by
  unfold modify; split <;> rfl

theorem index_lt {c : Canvas} {x y : Nat} (hx : x < c.width) (hy : y < c.height) :
    y * c.width + x < c.width * c.height :=
  calc y * c.width + x < y * c.width + c.width := by omega
    _ = (y + 1) * c.width := by rw [Nat.add_mul, Nat.one_mul]
    _ ≤ c.height * c.width := Nat.mul_le_mul_right _ (by omega)
    _ = c.width * c.height := Nat.mul_comm _ _

theorem index_inj {w x y x' y' : Nat} (hx : x < w) (hx' : x' < w)
    (h : y * w + x = y' * w + x') : x = x' ∧ y = y' := by
  have hmod : x = x' := by
    have := congrArg (· % w) h
    simpa [Nat.mul_add_mod', Nat.mod_eq_of_lt hx, Nat.mod_eq_of_lt hx'] using this
  refine ⟨hmod, ?_⟩
  subst hmod
  exact Nat.eq_of_mul_eq_mul_right (by omega : 0 < w) (Nat.add_right_cancel h)

/-- The changed cell. -/
theorem cell_modify_self (c : Canvas) {x y : Nat} (f : Cell → Cell)
    (hx : x < c.width) (hy : y < c.height) :
    (c.modify x y f).cell x y = f (c.cell x y) := by
  have hi : y * c.width + x < c.cells.size := by rw [c.size_cells]; exact index_lt hx hy
  simp [modify, cell, hx, hy, hi, Array.getElem_modify]

/-- All other cells stay as they are. -/
theorem cell_modify_of_ne (c : Canvas) {x y x' y' : Nat} (f : Cell → Cell)
    (h : ¬(x' = x ∧ y' = y)) : (c.modify x y f).cell x' y' = c.cell x' y' := by
  by_cases hin : x < c.width ∧ y < c.height
  · by_cases hout : x' < c.width ∧ y' < c.height
    · have hne : y * c.width + x ≠ y' * c.width + x' := fun he => h <| by
        have := index_inj hin.1 hout.1 he
        exact ⟨this.1.symm, this.2.symm⟩
      simp [modify, cell, hin, hout, Array.getElem?_modify, hne]
    · simp [modify, cell, hin, hout]
  · simp [modify, hin]

end Canvas

end DevicePanel
