import DevicePanel.Editor.Draw
import DevicePanel.Proofs.Screen.Confined

/-!
# Where the parts of an editor stand

The parts of an editor that stand side by side take no more columns than its area has, and the
rows of the area or fewer, so all of them stand in the area.  Two things are not counted from
the area.  The label is written into one row, which is the row of the field or the one below
it, whether or not the area has that row; and the cursor of a framed field is shown below the
upper border even where nothing is left below it.
-/

namespace DevicePanel

namespace EditorLayout

/-! ## Columns -/

namespace Columns

/-- The columns of all parts and of the gaps between them. -/
def total (c : Columns) : Nat :=
  c.label + c.field + c.gapBefore + c.confirm + c.gapBehind + c.message

end Columns

theorem total_tall_le (isSwitch : Bool) (label width : Nat) :
    ((if isSwitch then tallSwitch else tallText) label width).total ≤ width := by
  cases isSwitch with
  | false =>
      simp only [Bool.false_eq_true, if_false, tallText, Columns.total]
      omega
  | true =>
      simp only [if_true, tallSwitch]
      split
      next hfits =>
        simp only [Columns.total]
        omega
      · simp only [Columns.total]
        omega

theorem label_tall_le (isSwitch : Bool) (label width : Nat) :
    ((if isSwitch then tallSwitch else tallText) label width).label ≤ label := by
  cases isSwitch with
  | false => exact Nat.min_le_left label _
  | true =>
      simp only [if_true, tallSwitch]
      split
      · exact Nat.le_refl label
      · exact Nat.min_le_left label _

theorem total_compactText_le (label width : Nat) : (compactText label width).total ≤ width := by
  simp only [compactText, twoThirds]
  split
  · simp only [Columns.total]
    omega
  · split
    · simp only [Columns.total]
      omega
    · simp only [Columns.total]
      omega

theorem total_compactSwitch_le (label width : Nat) :
    (compactSwitch label width).total ≤ width := by
  simp only [compactSwitch]
  split
  · simp only [Columns.total]
    omega
  · split
    · simp only [Columns.total]
      split <;> omega
    · simp only [Columns.total]
      split <;> omega

theorem total_compact_le (isSwitch : Bool) (label width : Nat) :
    ((if isSwitch then compactSwitch else compactText) label width).total ≤ width := by
  cases isSwitch with
  | false => exact total_compactText_le label width
  | true => exact total_compactSwitch_le label width

theorem usableWidth_le (area : Rect) : area.usableWidth ≤ area.width := Nat.min_le_left _ _

/-- The columns that the parts of an editor take in an area. -/
def columnsOf (isSwitch isCompact : Bool) (area : Rect) : Columns :=
  (if isCompact then if isSwitch then compactSwitch else compactText
    else if isSwitch then tallSwitch else tallText) (labelWidth area.width) area.usableWidth

theorem total_columnsOf_le (isSwitch isCompact : Bool) (area : Rect) :
    (columnsOf isSwitch isCompact area).total ≤ area.usableWidth := by
  cases isCompact with
  | false => exact total_tall_le isSwitch _ _
  | true => exact total_compact_le isSwitch _ _

/-- A field has columns before the greatest one only. -/
theorem width_field_le (isSwitch isCompact : Bool) (area : Rect) :
    (ofArea isSwitch isCompact area).field.width ≤ area.usableWidth := by
  have htotal := total_columnsOf_le isSwitch isCompact area
  have hwidth : (ofArea isSwitch isCompact area).field.width =
      (columnsOf isSwitch isCompact area).field := by
    cases isCompact <;> rfl
  rw [Columns.total] at htotal
  omega

theorem le_x_field (isSwitch isCompact : Bool) (area : Rect) :
    area.x ≤ (ofArea isSwitch isCompact area).field.x := by
  cases isCompact with
  | false => exact Nat.le_add_right area.x _
  | true => exact Nat.le_add_right area.x _

theorem right_field_le (isSwitch isCompact : Bool) (area : Rect) :
    (ofArea isSwitch isCompact area).field.right ≤ area.right := by
  have htotal := total_columnsOf_le isSwitch isCompact area
  have husable := usableWidth_le area
  have hright : (ofArea isSwitch isCompact area).field.right =
      area.x + (columnsOf isSwitch isCompact area).label +
        (columnsOf isSwitch isCompact area).field := by
    cases isCompact <;> rfl
  rw [Columns.total] at htotal
  rw [hright, Rect.right]
  omega

/-- The label begins at the left of the area. -/
theorem x_label (isSwitch isCompact : Bool) (area : Rect) :
    (ofArea isSwitch isCompact area).label.x = area.x := by
  cases isCompact <;> rfl

theorem width_label_le (isSwitch isCompact : Bool) (area : Rect) :
    (ofArea isSwitch isCompact area).label.width ≤ area.width := by
  have htotal := total_columnsOf_le isSwitch isCompact area
  have husable := usableWidth_le area
  have hwidth : (ofArea isSwitch isCompact area).label.width =
      (columnsOf isSwitch isCompact area).label := by
    cases isCompact <;> rfl
  rw [Columns.total] at htotal
  omega

/-! ## Areas -/

/-- All parts stand in an area. -/
structure Within (l : EditorLayout) (area : Rect) : Prop where
  label : l.label.Within area
  field : l.field.Within area
  confirm : l.confirm.Within area
  message : l.message.Within area

theorem within_inRow {c : Columns} {area : Rect} (h : c.total ≤ area.width) :
    (c.inRow area).Within area := by
  have hpart : ∀ start width, start + width ≤ c.total →
      Rect.Within { area with x := area.x + start, width } area := by
    intro start width hstart x y hin
    simp only [Rect.contains_eq_true_iff, Rect.right, Rect.bottom] at hin ⊢
    omega
  simp only [Columns.total] at hpart
  constructor <;> exact hpart _ _ (by omega)

theorem Within.mono {l : EditorLayout} {area area' : Rect} (h : l.Within area)
    (harea : area.Within area') : l.Within area' where
  label x y hin := harea x y (h.label x y hin)
  field x y hin := harea x y (h.field x y hin)
  confirm x y hin := harea x y (h.confirm x y hin)
  message x y hin := harea x y (h.message x y hin)

/-- The parts above the message and the message share the rows of the area. -/
theorem partRows_le (height : Nat) : partRows height ≤ height := by
  rw [partRows]
  omega

theorem within_tall (isSwitch : Bool) (area : Rect) : (tall isSwitch area).Within area := by
  have hheight : area.usableHeight ≤ area.height := Nat.min_le_left _ _
  have hrows := partRows_le area.usableHeight
  have hparts : Rect.Within { area with height := partRows area.usableHeight } area := by
    intro x y hin
    simp only [Rect.contains_eq_true_iff, Rect.right, Rect.bottom] at hin ⊢
    omega
  have hrow : (((if isSwitch then tallSwitch else tallText) (labelWidth area.width)
      area.usableWidth).inRow { area with height := partRows area.usableHeight }).Within
        { area with height := partRows area.usableHeight } :=
    within_inRow (Nat.le_trans (total_tall_le isSwitch _ _) (usableWidth_le area))
  obtain ⟨hlabel, hfield, hconfirm, -⟩ := hrow.mono hparts
  refine ⟨hlabel, hfield, hconfirm, ?_⟩
  -- The message begins where the field does and leaves out the label's own width.
  have hown := label_tall_le isSwitch (labelWidth area.width) area.usableWidth
  have hwidth : labelWidth area.width ≤ area.width := by
    rw [labelWidth]
    omega
  intro x y hin
  simp only [tall, Columns.inRow, Rect.contains_eq_true_iff, Rect.right, Rect.bottom] at hin ⊢
  omega

theorem within_ofArea (isSwitch isCompact : Bool) (area : Rect) :
    (ofArea isSwitch isCompact area).Within area := by
  cases isCompact with
  | false => exact within_tall isSwitch area
  | true =>
      exact within_inRow (Nat.le_trans (total_compact_le isSwitch _ _) (usableWidth_le area))

theorem not_contains_of_field_inRow {c : Columns} {area : Rect} {x y : Nat}
    (h : (c.inRow area).field.contains x y = true) :
    (c.inRow area).confirm.contains x y = false ∧ (c.inRow area).message.contains x y = false := by
  simp only [Bool.eq_false_iff, Ne, Rect.contains_eq_true_iff, Columns.inRow, Rect.right] at h ⊢
  omega

/-- A cell of a field belongs neither to the button nor to the message. -/
theorem not_contains_of_field {isSwitch isCompact : Bool} {area : Rect} {x y : Nat}
    (h : (ofArea isSwitch isCompact area).field.contains x y = true) :
    (ofArea isSwitch isCompact area).confirm.contains x y = false ∧
      (ofArea isSwitch isCompact area).message.contains x y = false := by
  cases isCompact with
  | true => exact not_contains_of_field_inRow h
  | false =>
      obtain ⟨hconfirm, -⟩ := not_contains_of_field_inRow h
      refine ⟨hconfirm, ?_⟩
      -- The message begins below the rows of the field.
      simp only [ofArea, Bool.false_eq_true, if_false, tall, Columns.inRow,
        Rect.contains_eq_true_iff, Rect.bottom] at h
      simp only [ofArea, Bool.false_eq_true, if_false, tall, Bool.eq_false_iff, Ne,
        Rect.contains_eq_true_iff]
      omega

theorem y_field_ofArea (isSwitch isCompact : Bool) (area : Rect) :
    (ofArea isSwitch isCompact area).field.y = area.y := by
  cases isCompact with
  | false => rfl
  | true => rfl

end EditorLayout

end DevicePanel
