import DevicePanel.Proofs.Editor.Layout
import DevicePanel.Proofs.LineBuffer.Column
import DevicePanel.Theme.Palette

/-!
# The cursor in a field

The cursor is shown behind the columns of the text before it, or in the last column of the
field if these are more than the field has.  The columns are counted modulo a limit before they
are held against the field.  So a text beyond the limit has its cursor in the last column only
if what is left of its columns fills the field again; otherwise the cursor stands in the middle
of a text that goes on behind it.

A press on the cursor, where it is shown in its field, leads back to the same column.  The
place of the text is computed twice, once to draw it and once to follow the pointer, and the
two agree in framed and in compact editors.
-/

namespace DevicePanel

namespace Editor

/-! ## Where the cursor is shown -/

/-- An editor shows the cursor in a field only. -/
theorem cursor_draw (c : Canvas) (area : Rect) (t : Theme) (d : Draft)
    (p : EditorProps) (focus : EditorFocus) :
    (draw c area t d p focus).cursor =
      d.text?.bind fun text => cursor? (contentArea (layout d p area) p) text p focus := by
  cases d with
  | switch on => rfl
  | text text => rfl

/-- The inside of the field of a text that is drawn into an area. -/
def fieldInside (p : EditorProps) (area : Rect) : Rect :=
  contentArea (.ofArea false p.compact area) p

variable {c : Canvas} {area : Rect} {th : Theme} {t : TextDraft} {p : EditorProps}
  {focus : EditorFocus}

theorem cursor?_eq_some_iff {inside : Rect} {cell : Nat × Nat} :
    cursor? inside t p focus = some cell ↔
      (p.connected = true ∧ focus.input = true ∧ 0 < inside.width) ∧
        (inside.x + min (t.buffer.cursorColumns % columnLimit) (inside.width - 1), inside.y) =
          cell := by
  rw [cursor?, Option.ite_none_right_eq_some, Bool.and_eq_true, Bool.and_eq_true,
    decide_eq_true_iff, Option.some_inj, and_assoc (a := p.connected = true)]

theorem cursor_text_eq_some_iff {cell : Nat × Nat} :
    (draw c area th (.text t) p focus).cursor = some cell ↔
      (p.connected = true ∧ focus.input = true ∧ 0 < (fieldInside p area).width) ∧
        ((fieldInside p area).x +
            min (t.buffer.cursorColumns % columnLimit) ((fieldInside p area).width - 1),
          (fieldInside p area).y) = cell := by
  rw [cursor_draw]
  exact cursor?_eq_some_iff

/-- A shown cursor stands between the columns of the inside of its field. -/
theorem cursor_inside {d : Draft} {x y : Nat}
    (h : (draw c area th d p focus).cursor = some (x, y)) :
    d.isSwitch = false ∧ (fieldInside p area).x ≤ x ∧ x < (fieldInside p area).right ∧
      y = (fieldInside p area).y := by
  cases d with
  | switch on => cases h
  | text t =>
      obtain ⟨⟨-, -, hwidth⟩, hcell⟩ := cursor_text_eq_some_iff.mp h
      obtain ⟨rfl, rfl⟩ := Prod.mk.inj hcell
      refine ⟨rfl, Nat.le_add_right _ _, ?_, rfl⟩
      rw [Rect.right]
      omega

/-! ## Long texts -/

/-- Columns that are counted modulo a limit are clamped as they are only below the limit, or
where the rest reaches the last column. -/
theorem min_mod_eq_iff {columns width limit : Nat} (hlimit : 0 < limit) :
    min (columns % limit) (width - 1) = min columns (width - 1) ↔
      columns < limit ∨ width ≤ columns % limit + 1 := by
  rcases Nat.lt_or_ge columns limit with hlt | hge
  · rw [Nat.mod_eq_of_lt hlt]
    exact iff_of_true rfl (.inl hlt)
  · have hrest := Nat.mod_lt columns hlimit
    omega

/-- The cursor is shown behind the text before it and held back at the last column of the
field exactly if that text is shorter than the limit or its columns beyond multiples of the
limit fill the field.  In any case it is shown inside the field. -/
theorem cursor_is_clamped_iff (c : Canvas) (area : Rect) (th : Theme) (up : p.connected = true)
    (focused : focus.input = true) (room : 0 < (fieldInside p area).width) :
    let inside := fieldInside p area
    let columns := t.buffer.cursorColumns
    let cursor := (draw c area th (.text t) p focus).cursor
    (cursor = some (inside.x + min columns (inside.width - 1), inside.y) ↔
        columns < columnLimit ∨ inside.width ≤ columns % columnLimit + 1) ∧
      (inside.width ≤ columns →
        (cursor = some (inside.right - 1, inside.y) ↔
          columns < columnLimit ∨ inside.width ≤ columns % columnLimit + 1)) ∧
      ∃ x, cursor = some (x, inside.y) ∧ inside.x ≤ x ∧ x < inside.right := by
  intro inside columns cursor
  have hclamped : cursor = some (inside.x + min columns (inside.width - 1), inside.y) ↔
      columns < columnLimit ∨ inside.width ≤ columns % columnLimit + 1 := by
    rw [cursor_text_eq_some_iff, Prod.mk.injEq, Nat.add_right_inj,
      min_mod_eq_iff (by decide : 0 < columnLimit)]
    exact ⟨fun h => h.2.1, fun h => ⟨⟨up, focused, room⟩, h, rfl⟩⟩
  refine ⟨hclamped, ?_, ?_⟩
  · intro hlong
    have hlast : inside.x + min columns (inside.width - 1) = inside.right - 1 := by
      have hpos : 0 < inside.width := room
      rw [Rect.right]
      omega
    rw [← hlast]
    exact hclamped
  · have hshown : cursor =
        some (inside.x + min (columns % columnLimit) (inside.width - 1), inside.y) :=
      cursor_text_eq_some_iff.mpr ⟨⟨up, focused, room⟩, rfl⟩
    obtain ⟨-, hleft, hright, -⟩ := cursor_inside hshown
    exact ⟨_, hshown, hleft, hright⟩

/-- A text of four columns in a field of 31 columns. -/
theorem cursor_is_clamped_iff_wide :
    let p : EditorProps := { committed := none, format := .text }
    let area : Rect := { width := 60, height := 4 }
    let t : TextDraft := { buffer := .ofText "日本", edited := true }
    p.connected = true ∧ 0 < (fieldInside p area).width ∧
      ∀ c th, (draw c area th (.text t) p ⟨true, false⟩).cursor =
        some ((fieldInside p area).x + min t.buffer.cursorColumns ((fieldInside p area).width - 1),
          (fieldInside p area).y) := by
  intro p area t
  have hroom : 0 < (fieldInside p area).width := by decide
  refine ⟨rfl, hroom, ?_⟩
  intro c th
  have hfocused : (⟨true, false⟩ : EditorFocus).input = true := rfl
  have hshort : t.buffer.cursorColumns < columnLimit := by decide +kernel
  exact (cursor_is_clamped_iff c area th rfl hfocused hroom).1.mpr (.inl hshort)

theorem totalColumns_replicate (n : Nat) (ch : Char) :
    Text.totalColumns (List.replicate n ch) = n * Text.columns ch := by
  induction n with
  | zero => rw [Nat.zero_mul]; rfl
  | succ n ih => rw [List.replicate_succ, Text.totalColumns_cons, ih, Nat.succ_mul, Nat.add_comm]

/-- Behind a text of as many columns as the limit the cursor is shown in the first column of the
field and not in its last one. -/
theorem long_text_has_cursor_in_front :
    let p : EditorProps := { committed := none, format := .text }
    let area : Rect := { width := 60, height := 4 }
    let inside := fieldInside p area
    let t : TextDraft := { buffer := ⟨List.replicate 65536 'a', []⟩, edited := true }
    let cursor := (draw (.blank 60 4) area Palette.dracula.theme (.text t) p ⟨true, false⟩).cursor
    inside.width = 31 ∧ inside.width ≤ t.buffer.cursorColumns ∧
      cursor = some (inside.x, inside.y) ∧
      cursor ≠ some (inside.x + min t.buffer.cursorColumns (inside.width - 1), inside.y) := by
  intro p area inside t cursor
  have hcolumns : t.buffer.cursorColumns = 65536 := by
    rw [LineBuffer.cursorColumns, totalColumns_replicate]
    rfl
  have hshown : cursor = some (inside.x, inside.y) := by
    rw [cursor_text_eq_some_iff, hcolumns]
    decide
  refine ⟨by decide, by rw [hcolumns]; decide, hshown, ?_⟩
  rw [hshown, hcolumns]
  decide

/-! ## The pointer on the cursor -/

theorem fieldInside_width_le (p : EditorProps) (area : Rect) :
    (fieldInside p area).width ≤ (EditorLayout.ofArea false p.compact area).field.width := by
  rw [fieldInside, contentArea]
  split
  · exact Nat.le_refl _
  · exact Nat.sub_le _ 2

/-- No field has as many columns as the limit up to which columns are counted. -/
theorem width_fieldInside_lt (p : EditorProps) (area : Rect) :
    (fieldInside p area).width < columnLimit := by
  have hfield := EditorLayout.width_field_le false p.compact area
  have husable : area.usableWidth ≤ Rect.maxCoordinate := by
    rw [Rect.usableWidth]
    omega
  have hmax : Rect.maxCoordinate < columnLimit := by decide
  exact (((fieldInside_width_le p area).trans hfield).trans husable).trans_lt hmax

/-- The text begins in the first column of the inside of its field. -/
theorem textColumn_eq {p : EditorProps} {area : Rect} (room : 0 < (fieldInside p area).width) :
    (EditorLayout.ofArea false p.compact area).textColumn p.compact = (fieldInside p area).x := by
  rw [EditorLayout.textColumn]
  rw [fieldInside, contentArea] at room ⊢
  split
  · rfl
  next hframed =>
    rw [if_neg hframed] at room
    simp only [Rect.inner, Rect.right] at room ⊢
    omega

/-- A press in a field moves the cursor of a text and does nothing else. -/
theorem press_in_field {l : EditorLayout} (up : p.connected = true) {x y : Nat}
    (h : l.field.contains x y = true) (t : TextDraft) :
    (Draft.text t).pointer p l ⟨.press, x, y⟩ =
      (.text (t.move (·.moveToColumn (x - l.textColumn p.compact))), none) := by
  have hcontrol : l.control? x y = some .input := by
    rw [EditorLayout.control?, h]
    rfl
  simp [Draft.pointer, up, hcontrol]

/-- A press on the cursor where it is shown in its field, before its last column, gives no
value and changes neither the text nor its phase nor its rejection.  The cursor stays in its
column: it steps back over characters without columns at most. -/
theorem press_returns_to_cursor (c : Canvas) (area : Rect) (th : Theme) {x y : Nat}
    (shown : (draw c area th (.text t) p focus).cursor = some (x, y))
    (hfield : (layout (.text t) p area).field.contains x y = true)
    (short : t.buffer.cursorColumns < (fieldInside p area).width) :
    ∃ b marks,
      (Draft.text t).pointer p (layout (.text t) p area) ⟨.press, x, y⟩ =
          (.text { t with buffer := b }, none) ∧
        b.toList = t.buffer.toList ∧ b.cursorColumns = t.buffer.cursorColumns ∧
        t.buffer.before = marks ++ b.before ∧ ∀ ch ∈ marks, Text.columns ch = 0 := by
  obtain ⟨⟨up, -, room⟩, hcell⟩ := cursor_text_eq_some_iff.mp shown
  obtain ⟨rfl, rfl⟩ := Prod.mk.inj hcell
  have hlimit := width_fieldInside_lt p area
  have hcolumn : (fieldInside p area).x +
      min (t.buffer.cursorColumns % columnLimit) ((fieldInside p area).width - 1) -
        (layout (.text t) p area).textColumn p.compact = t.buffer.cursorColumns := by
    have horigin : (layout (.text t) p area).textColumn p.compact = (fieldInside p area).x :=
      textColumn_eq room
    rw [horigin, Nat.add_sub_cancel_left, Nat.mod_eq_of_lt (short.trans hlimit)]
    omega
  obtain ⟨marks, hbefore, hmarks⟩ := t.buffer.exists_before_eq
  refine ⟨t.buffer.moveToColumn t.buffer.cursorColumns, marks, ?_, ?_, ?_, hbefore, hmarks⟩
  · rw [press_in_field up hfield, hcolumn]
    rfl
  · exact t.buffer.toList_moveToColumn _
  · have htotal := congrArg Text.totalColumns hbefore
    rw [Text.totalColumns_append, (Text.totalColumns_eq_zero_iff marks).mpr hmarks,
      Nat.zero_add] at htotal
    exact htotal.symm

/-- A press on the cursor behind a wide character and a mark in a framed field. -/
theorem press_returns_to_cursor_wide :
    let p : EditorProps := { committed := none, format := .text }
    let area : Rect := { width := 60, height := 4 }
    let t : TextDraft := { buffer := ⟨['\u0301', '日'], ['x']⟩, edited := true }
    (draw (.blank 60 4) area Palette.dracula.theme (.text t) p ⟨true, false⟩).cursor =
        some (23, 1) ∧
      (layout (.text t) p area).field.contains 23 1 = true ∧
      t.buffer.cursorColumns < (fieldInside p area).width ∧
      ∃ b, (Draft.text t).pointer p (layout (.text t) p area) ⟨.press, 23, 1⟩ =
          (.text { t with buffer := b }, none) ∧
        b.toList = t.buffer.toList ∧ b.cursorColumns = t.buffer.cursorColumns := by
  intro p area t
  have hcolumns : t.buffer.cursorColumns = 2 := by decide +kernel
  have hshown : (draw (.blank 60 4) area Palette.dracula.theme (.text t) p ⟨true, false⟩).cursor =
      some (23, 1) := by
    rw [cursor_text_eq_some_iff, hcolumns]
    decide
  have hshort : t.buffer.cursorColumns < (fieldInside p area).width := by
    rw [hcolumns]
    decide
  obtain ⟨b, -, hpointer, htext, hcolumn, -⟩ :=
    press_returns_to_cursor (.blank 60 4) area Palette.dracula.theme hshown (by decide) hshort
  exact ⟨hshown, by decide, hshort, b, hpointer, htext, hcolumn⟩

end Editor

end DevicePanel
