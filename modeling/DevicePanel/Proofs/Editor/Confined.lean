import DevicePanel.Proofs.Editor.FieldCursor

/-!
# Drawing inside the area of an editor

The field, the button and the message are drawn where the layout puts them, which is inside
the area of the editor.  The label has one row, the first one of a compact editor and the
second one of a framed editor, and it is drawn there even if the area ends above that row.  So
an editor draws inside its area if that has one row or two, for the compact and the framed
form.  In a lower area it does so only where nothing is to be seen of the label and the cursor
is hidden: otherwise the label is written over what stands below the area, and the cursor is
shown there.
-/

namespace DevicePanel

namespace Editor

/-! ## The row of the label -/

/-- The row that the label is drawn into. -/
def labelRow (p : EditorProps) (l : EditorLayout) : Rect :=
  { l.label with y := l.field.y + (if p.compact then 0 else 1), height := 1 }

/-- The line of the label. -/
def labelLine (t : Theme) (p : EditorProps) (focus : EditorFocus) : Line :=
  [⟨p.label.getD p.format.prompt, if focus.any then t.accentStyle else t.secondaryStyle⟩]

theorem drawLabel_eq (c : Canvas) (l : EditorLayout) (t : Theme) (p : EditorProps)
    (focus : EditorFocus) :
    drawLabel c l t p focus = c.paragraph (labelRow p l) [labelLine t p focus] := rfl

/-- The rows that an editor needs to have its label inside its area. -/
def fewestRows (p : EditorProps) : Nat := if p.compact then 1 else 2

variable {c : Canvas} {area : Rect} {t : Theme} {d : Draft} {p : EditorProps}
  {focus : EditorFocus}

theorem y_labelRow (d : Draft) (p : EditorProps) (area : Rect) :
    (labelRow p (layout d p area)).y + 1 = area.y + fewestRows p := by
  have hfield : (layout d p area).field.y = area.y := EditorLayout.y_field_ofArea _ _ area
  rw [labelRow, fewestRows, hfield]
  dsimp only
  split
  · rfl
  · rfl

theorem right_labelRow_le (d : Draft) (p : EditorProps) (area : Rect) :
    (labelRow p (layout d p area)).right ≤ area.right := by
  have hx : (layout d p area).label.x = area.x := EditorLayout.x_label _ _ area
  have hwidth : (layout d p area).label.width ≤ area.width := EditorLayout.width_label_le _ _ area
  simp only [labelRow, Rect.right]
  omega

theorem contains_labelRow {x y : Nat} (h : (labelRow p (layout d p area)).contains x y = true) :
    area.x ≤ x ∧ x < area.right ∧ y + 1 = area.y + fewestRows p := by
  have hx : (layout d p area).label.x = area.x := EditorLayout.x_label _ _ area
  have hright := right_labelRow_le d p area
  have hy := y_labelRow d p area
  rw [Rect.contains_eq_true_iff, Rect.bottom] at h
  simp only [labelRow] at *
  omega

theorem within_labelRow (rows : fewestRows p ≤ area.height) :
    (labelRow p (layout d p area)).Within area := by
  intro x y h
  have hpos : 0 < fewestRows p := by
    rw [fewestRows]
    split <;> decide
  obtain ⟨hleft, hright, hy⟩ := contains_labelRow h
  rw [Rect.contains_eq_true_iff, Rect.bottom]
  exact ⟨hleft, hright, by omega, by omega⟩

/-- The area is too low for the row of the label. -/
theorem not_contains_labelRow (d : Draft) (few : area.height < fewestRows p) (x : Nat) :
    area.contains x (labelRow p (layout d p area)).y = false := by
  have hy := y_labelRow d p area
  rw [Bool.eq_false_iff, Ne, Rect.contains_eq_true_iff, Rect.bottom]
  omega

/-! ## Where an editor draws -/

theorem within_contentArea (l : EditorLayout) (p : EditorProps) :
    (contentArea l p).Within l.field := by
  rw [contentArea]
  split
  · exact fun x y h => h
  · exact l.field.within_inner

theorem changesOnly_drawFieldFrame (c : Canvas) (l : EditorLayout) (t : Theme) (p : EditorProps)
    (focus : EditorFocus) : c.ChangesOnly l.field.contains (drawFieldFrame c l t p focus) := by
  rw [drawFieldFrame]
  split
  · exact .refl _ c
  · exact c.changesOnly_frame l.field _

theorem changesOnly_drawText (c : Canvas) {l : EditorLayout} (h : l.Within area) (t : Theme)
    (text : TextDraft) (p : EditorProps) (focus : EditorFocus) :
    c.ChangesOnly area.contains (drawText c l t text p focus).canvas := by
  have hinside : ∀ x y, (contentArea l p).contains x y = true → area.contains x y = true :=
    fun x y hin => h.field x y (within_contentArea l p x y hin)
  refine .trans ?_ ((Button.changesOnly_draw _ l.confirm t _ _).mono h.confirm)
  refine .trans ?_ ((Canvas.changesOnly_paragraph _ (contentArea l p) _ _).mono hinside)
  refine .trans ?_ ((Canvas.changesOnly_style _ (contentArea l p) _).mono hinside)
  exact (changesOnly_drawFieldFrame c l t p focus).mono h.field

theorem changesOnly_drawSwitch (c : Canvas) {l : EditorLayout} (h : l.Within area) (t : Theme)
    (on : Bool) (p : EditorProps) (focus : EditorFocus) :
    c.ChangesOnly area.contains (drawSwitch c l t on p focus).canvas := by
  have hinside : ∀ x y, (contentArea l p).contains x y = true → area.contains x y = true :=
    fun x y hin => h.field x y (within_contentArea l p x y hin)
  exact ((changesOnly_drawFieldFrame c l t p focus).mono h.field).trans
    ((Toggle.changesOnly_draw _ (contentArea l p) t on _ _).mono hinside)

theorem changesOnly_drawMessage (c : Canvas) (l : EditorLayout) (t : Theme) (d : Draft)
    (p : EditorProps) : c.ChangesOnly l.message.contains (drawMessage c l t d p) := by
  rw [drawMessage]
  split
  · exact c.changesOnly_paragraph l.message _ _
  · split
    · exact c.changesOnly_paragraph l.message _ _
    · exact .refl _ c

/-- All that an editor draws behind its label is inside its area. -/
theorem changesOnly_draw (c : Canvas) (area : Rect) (t : Theme) (d : Draft) (p : EditorProps)
    (focus : EditorFocus) :
    (drawLabel c (layout d p area) t p focus).ChangesOnly area.contains
      (draw c area t d p focus).canvas := by
  have hlayout : (layout d p area).Within area := EditorLayout.within_ofArea _ _ area
  refine .trans ?_ ((changesOnly_drawMessage _ _ t d p).mono hlayout.message)
  cases d with
  | switch on => exact changesOnly_drawSwitch _ hlayout t on p focus
  | text text => exact changesOnly_drawText _ hlayout t text p focus

/-! ## The cursor -/

theorem y_fieldInside (p : EditorProps) (area : Rect) :
    (fieldInside p area).y =
      if p.compact then area.y
      else min (area.y + 1) (area.y + EditorLayout.partRows area.usableHeight) := by
  rw [fieldInside, contentArea]
  cases hcompact : p.compact with
  | false => rfl
  | true => rfl

/-- The inside of a field stands between the columns of the area. -/
theorem le_x_fieldInside (p : EditorProps) (area : Rect) : area.x ≤ (fieldInside p area).x := by
  have hfield := EditorLayout.le_x_field false p.compact area
  rw [fieldInside, contentArea]
  split
  · exact hfield
  · simp only [Rect.inner, Rect.right]
    omega

theorem right_fieldInside_le (p : EditorProps) (area : Rect) :
    (fieldInside p area).right ≤ area.right := by
  have hfield := EditorLayout.right_field_le false p.compact area
  rw [fieldInside, contentArea]
  split
  · exact hfield
  · simp only [Rect.inner, Rect.right] at hfield ⊢
    omega

theorem contains_cursor {x y : Nat} (h : (draw c area t d p focus).cursor = some (x, y))
    (rows : fewestRows p ≤ area.height) : area.contains x y = true := by
  obtain ⟨-, hleft, hright, rfl⟩ := cursor_inside h
  have hx := le_x_fieldInside p area
  have hx' := right_fieldInside_le p area
  rw [Rect.contains_eq_true_iff, y_fieldInside, Rect.bottom]
  rw [fewestRows] at rows
  split
  next hcompact =>
    rw [if_pos hcompact] at rows
    omega
  next hframed =>
    rw [if_neg hframed] at rows
    omega

theorem not_contains_cursor {x y : Nat} (h : (draw c area t d p focus).cursor = some (x, y))
    (few : area.height < fewestRows p) (bottom : area.bottom ≤ Rect.maxCoordinate) :
    area.contains x y = false := by
  obtain ⟨-, -, -, rfl⟩ := cursor_inside h
  rw [Bool.eq_false_iff, Ne, Rect.contains_eq_true_iff, y_fieldInside]
  rw [fewestRows] at few
  rw [Rect.bottom] at bottom ⊢
  split
  next hcompact =>
    rw [if_pos hcompact] at few
    omega
  next hframed =>
    rw [if_neg hframed] at few
    rw [EditorLayout.partRows, Rect.usableHeight]
    omega

/-! ## Inside the area -/

/-- An editor that is drawn into an area changes no cell outside it and shows no cursor
there. -/
structure DrawsInside (c : Canvas) (area : Rect) (t : Theme) (d : Draft) (p : EditorProps)
    (focus : EditorFocus) : Prop where
  cells : ∀ x y, area.contains x y = false →
    (draw c area t d p focus).canvas.cell x y = c.cell x y
  cursor : ∀ x y, (draw c area t d p focus).cursor = some (x, y) → area.contains x y = true

/-- An editor draws inside its area on a screen exactly if the area has the rows that it needs,
or if the cursor is hidden and every symbol of the label that would be written below the area is
there already. -/
theorem draws_inside_iff (t : Theme) (d : Draft) (p : EditorProps) (focus : EditorFocus)
    (hright : area.right ≤ c.width) (hbottom : area.bottom ≤ c.height)
    (hscreen : c.height ≤ Rect.maxCoordinate) :
    DrawsInside c area t d p focus ↔
      fewestRows p ≤ area.height ∨
        (draw c area t d p focus).cursor = none ∧
          ∀ x g, (x, g) ∈ (labelLine t p focus).placed (labelRow p (layout d p area)) →
            (labelRow p (layout d p area)).y < c.height →
              g.into (c.cell x (labelRow p (layout d p area)).y) =
                c.cell x (labelRow p (layout d p area)).y := by
  have hlabelRight : (labelRow p (layout d p area)).right ≤ c.width :=
    (right_labelRow_le d p area).trans hright
  constructor
  · intro inside
    rw [or_iff_not_imp_left, Nat.not_le]
    intro few
    refine ⟨?_, ?_⟩
    · rw [Option.eq_none_iff_forall_ne_some]
      rintro ⟨x, y⟩ hcursor
      have hin := inside.cursor x y hcursor
      rw [not_contains_cursor hcursor few (hbottom.trans hscreen)] at hin
      cases hin
    · intro x g hmem hrow
      have hout := not_contains_labelRow d few x
      rw [← Canvas.cell_paragraph_of_mem Nat.one_pos hlabelRight hrow hmem, ← drawLabel_eq,
        ← (changesOnly_draw c area t d p focus).cell x _ hout]
      exact inside.cells x _ hout
  · rintro (rows | ⟨hhidden, hsame⟩)
    · have hlabel := (c.changesOnly_paragraph (labelRow p (layout d p area))
        [labelLine t p focus] .left).mono (within_labelRow rows)
      have hdraw := hlabel.trans (changesOnly_draw c area t d p focus)
      exact ⟨hdraw.cell, fun x y hcursor => contains_cursor hcursor rows⟩
    · constructor
      · intro x y hout
        rw [(changesOnly_draw c area t d p focus).cell x y hout, drawLabel_eq]
        by_cases hwritten : (labelRow p (layout d p area)).y < c.height ∧
            y = (labelRow p (layout d p area)).y ∧
              ∃ g, (x, g) ∈ (labelLine t p focus).placed (labelRow p (layout d p area))
        · obtain ⟨hrow, rfl, g, hmem⟩ := hwritten
          rw [Canvas.cell_paragraph_of_mem Nat.one_pos hlabelRight hrow hmem]
          exact hsame x g hmem hrow
        · apply Canvas.cell_paragraph_of_not_mem Nat.one_pos hlabelRight
          intro hrow hy g hmem
          exact hwritten ⟨hrow, hy, g, hmem⟩
      · intro x y hcursor
        rw [hhidden] at hcursor
        cases hcursor

/-- Two rows are enough for a framed editor. -/
theorem draws_inside_iff_two_rows :
    let c := Canvas.blank 40 3
    let area : Rect := { width := 40, height := 2 }
    let p : EditorProps := { committed := none, format := .text }
    area.right ≤ c.width ∧ area.bottom ≤ c.height ∧ c.height ≤ Rect.maxCoordinate ∧
      DrawsInside c area Palette.dracula.theme (.text {}) p ⟨true, false⟩ := by
  intro c area p
  have hright : area.right ≤ c.width := by decide
  have hbottom : area.bottom ≤ c.height := by decide
  have hscreen : c.height ≤ Rect.maxCoordinate := by decide
  refine ⟨hright, hbottom, hscreen, ?_⟩
  exact (draws_inside_iff _ _ p _ hright hbottom hscreen).mpr (.inl (by decide))

/-- A framed editor in an area of one row writes its label over the row below and shows the
cursor there. -/
theorem label_is_drawn_below_area :
    let c := Canvas.blank 40 3
    let area : Rect := { width := 40, height := 1 }
    let p : EditorProps := { committed := none, format := .text }
    let drawn := draw c area Palette.dracula.theme (.text {}) p ⟨true, false⟩
    area.right ≤ c.width ∧ area.bottom ≤ c.height ∧
      area.contains 0 1 = false ∧ (c.cell 0 1).symbol = " " ∧
      (drawn.canvas.cell 0 1).symbol = "E" ∧
      drawn.cursor = some (14, 1) ∧ area.contains 14 1 = false ∧
      ¬ DrawsInside c area Palette.dracula.theme (.text {}) p ⟨true, false⟩ := by
  intro c area p drawn
  have hbefore : (c.cell 0 1).symbol = " " := by decide +kernel
  have hafter : (drawn.canvas.cell 0 1).symbol = "E" := by decide +kernel
  refine ⟨by decide, by decide, rfl, hbefore, hafter, by decide +kernel, rfl, ?_⟩
  intro inside
  have hsame : drawn.canvas.cell 0 1 = c.cell 0 1 := inside.cells 0 1 rfl
  rw [hsame, hbefore] at hafter
  exact absurd hafter (by decide)

end Editor

end DevicePanel
