import DevicePanel.Proofs.Editor.Confined
import DevicePanel.Proofs.Text.SharedColumns

/-!
# The cursor behind a text

A text is drawn cluster by cluster, and the cursor is shown behind the columns of its
characters.  So the cursor at the end of a text stands in the cell behind the text exactly if
the characters have as many columns as their clusters take.  They do in a text without joining
characters.  An emoji of two pictographs and a joiner has the columns of both pictographs
before its cursor, and takes the columns of one.
-/

namespace DevicePanel

/-! ## Symbols one behind the other -/

namespace Line

/-- Symbols that fit leave the rest of the width to those behind them. -/
theorem fit_append {width used : Nat} {glyphs : List Glyph} (rest : List Glyph)
    (h : used + columns glyphs ≤ width) :
    fit width used (glyphs ++ rest) = glyphs ++ fit width (used + columns glyphs) rest := by
  induction glyphs generalizing used with
  | nil => rfl
  | cons g glyphs ih =>
      rw [Canvas.columns_cons, ← Nat.add_assoc] at h ⊢
      have hg : used + g.columns ≤ width := (Nat.le_add_right _ _).trans h
      have hnarrow : ¬width < g.columns := by omega
      rw [List.cons_append, fit, if_neg hnarrow, if_neg (Nat.not_lt.mpr hg), ih h,
        List.cons_append]

theorem place_append (x : Nat) (glyphs rest : List Glyph) :
    place x (glyphs ++ rest) = place x glyphs ++ place (x + columns glyphs) rest := by
  induction glyphs generalizing x with
  | nil => rfl
  | cons g glyphs ih =>
      rw [List.cons_append, place, place, Canvas.columns_cons]
      split
      next hcolumns => rw [ih, eq_of_beq hcolumns, Nat.zero_add]
      next => rw [ih, List.cons_append, Nat.add_assoc]

theorem columns_append (glyphs rest : List Glyph) :
    columns (glyphs ++ rest) = columns glyphs + columns rest := by
  induction glyphs with
  | nil => exact (Nat.zero_add _).symm
  | cons g glyphs ih =>
      rw [List.cons_append, Canvas.columns_cons, Canvas.columns_cons, ih, Nat.add_assoc]

/-- The last symbol that is placed ends with the columns of all symbols. -/
theorem add_columns_of_getLast? {x x' : Nat} {g : Glyph} {glyphs : List Glyph}
    (h : (place x glyphs).getLast? = some (x', g)) : x' + g.columns = x + columns glyphs := by
  -- Symbols without columns at the end are not placed, so the last one may stand before them.
  induction glyphs using List.reverseRecOn with
  | nil => cases h
  | append_singleton glyphs last ih =>
      rw [place_append, place] at h
      rw [columns_append, Canvas.columns_cons]
      by_cases hcolumns : last.columns = 0
      · rw [if_pos (beq_iff_eq.mpr hcolumns), place, List.append_nil] at h
        rw [ih h, hcolumns]
        rfl
      · rw [if_neg (mt eq_of_beq hcolumns), place, List.getLast?_concat] at h
        obtain ⟨rfl, rfl⟩ := Prod.mk.inj (Option.some.inj h)
        exact Nat.add_assoc x (columns glyphs) last.columns

end Line

/-- The symbols of a text take the columns that its clusters do. -/
theorem Span.columns_glyphs (s : Span) :
    Line.columns s.glyphs = Text.drawnColumns s.text.toList := by
  rw [Span.glyphs, Text.drawnColumns]
  generalize Text.clusters s.text.toList = clusters
  induction clusters with
  | nil => rfl
  | cons k clusters ih =>
      rw [List.filter_cons, List.map_cons, List.sum_cons, Text.shownColumns, ← ih]
      cases k.any Text.isControl with
      | true => exact (Nat.zero_add _).symm
      | false => rfl

namespace Editor

/-! ## The symbols in a field -/

/-- The canvas that the line of a field is written on. -/
def fieldCanvas (c : Canvas) (area : Rect) (th : Theme) (t : TextDraft) (p : EditorProps)
    (focus : EditorFocus) : Canvas :=
  let l := layout (.text t) p area
  (drawFieldFrame (drawLabel c l th p focus) l th p focus).style (fieldInside p area)
    (th.fieldStyle t.error.isNone p.connected)

variable {c : Canvas} {area : Rect} {th : Theme} {t : TextDraft} {p : EditorProps}
  {focus : EditorFocus}

theorem size_fieldCanvas (c : Canvas) (area : Rect) (th : Theme) (t : TextDraft)
    (p : EditorProps) (focus : EditorFocus) :
    (fieldCanvas c area th t p focus).width = c.width ∧
      (fieldCanvas c area th t p focus).height = c.height := by
  have hlabel := c.changesOnly_paragraph (labelRow p (layout (.text t) p area))
    [labelLine th p focus] .left
  have hframe := changesOnly_drawFieldFrame (drawLabel c (layout (.text t) p area) th p focus)
    (layout (.text t) p area) th p focus
  have hstyle := Canvas.changesOnly_style (drawFieldFrame
    (drawLabel c (layout (.text t) p area) th p focus) (layout (.text t) p area) th p focus)
    (fieldInside p area) (th.fieldStyle t.error.isNone p.connected)
  exact ⟨hstyle.width.trans (hframe.width.trans hlabel.width),
    hstyle.height.trans (hframe.height.trans hlabel.height)⟩

/-- The button and the message leave the field as it is. -/
theorem cell_draw_of_field {x y : Nat}
    (h : (layout (.text t) p area).field.contains x y = true) :
    (draw c area th (.text t) p focus).canvas.cell x y =
      ((fieldCanvas c area th t p focus).paragraph (fieldInside p area) [fieldLine th t p]).cell
        x y := by
  obtain ⟨hconfirm, hmessage⟩ := EditorLayout.not_contains_of_field h
  have hbutton := Button.changesOnly_draw
    ((fieldCanvas c area th t p focus).paragraph (fieldInside p area) [fieldLine th t p])
    (layout (.text t) p area).confirm th confirmLabel ⟨p.connected, focus.confirm, !p.compact⟩
  have hdraw := changesOnly_drawMessage
    (drawText (drawLabel c (layout (.text t) p area) th p focus) (layout (.text t) p area) th t p
      focus).canvas (layout (.text t) p area) th (.text t) p
  exact (hdraw.cell x y hmessage).trans (hbutton.cell x y hconfirm)

/-- The symbols of a line are drawn into the field. -/
theorem contains_of_mem_placed {line : Line} (row : 0 < (fieldInside p area).height) {x : Nat}
    {g : Glyph} (hmem : (x, g) ∈ line.placed (fieldInside p area)) :
    (EditorLayout.ofArea false p.compact area).field.contains x (fieldInside p area).y = true := by
  have hfit := Canvas.columns_fit_le (fieldInside p area).width line.glyphs (Nat.zero_le _)
  obtain ⟨hleft, hright, hpos⟩ := Canvas.mem_place hmem
  have hcell : (fieldInside p area).contains x (fieldInside p area).y = true := by
    rw [Rect.contains_eq_true_iff, Rect.right, Rect.bottom]
    omega
  exact within_contentArea _ p _ _ hcell

/-- The symbols of the line of a field are in their cells when the editor has been drawn. -/
theorem symbol_of_mem_placed (th : Theme) (focus : EditorFocus) (hright : area.right ≤ c.width)
    (hbottom : area.bottom ≤ c.height) (row : 0 < (fieldInside p area).height) {x : Nat} {g : Glyph}
    (hmem : (x, g) ∈ (fieldLine th t p).placed (fieldInside p area)) :
    ((draw c area th (.text t) p focus).canvas.cell x (fieldInside p area).y).symbol =
      g.symbol := by
  have hfield := contains_of_mem_placed row hmem
  obtain ⟨hwidth, hheight⟩ := size_fieldCanvas c area th t p focus
  have hinside : (fieldInside p area).right ≤ (fieldCanvas c area th t p focus).width := by
    rw [hwidth]
    exact (right_fieldInside_le p area).trans hright
  have hrow : (fieldInside p area).y < (fieldCanvas c area th t p focus).height := by
    have harea := (EditorLayout.within_ofArea false p.compact area).field x _ hfield
    rw [Rect.contains_eq_true_iff] at harea
    rw [hheight]
    omega
  rw [cell_draw_of_field hfield, Canvas.cell_paragraph_of_mem row hinside hrow hmem]
  rfl

/-! ## The cursor at the end of a text -/

/-- The line of an edited text, which its units follow. -/
def textLine (th : Theme) (t : TextDraft) (p : EditorProps) : Line :=
  [⟨t.buffer.text, th.fieldStyle t.error.isNone p.connected⟩]

theorem columns_textLine (th : Theme) (t : TextDraft) (p : EditorProps) :
    Line.columns (textLine th t p).glyphs = Text.drawnColumns t.buffer.toList := by
  rw [Line.glyphs, textLine, List.flatMap_singleton, Span.columns_glyphs, LineBuffer.text,
    String.toList_ofList]

/-- An edited text is drawn with room for the cursor behind it, and the cursor is shown where it
is counted. -/
structure ShowsText (c : Canvas) (area : Rect) (t : TextDraft) (p : EditorProps)
    (focus : EditorFocus) : Prop where
  connected : p.connected = true
  focused : focus.input = true
  edited : t.edited = true
  -- The area is on the canvas and has a row for the text.
  right : area.right ≤ c.width
  bottom : area.bottom ≤ c.height
  row : 0 < (fieldInside p area).height
  -- The field is wide enough for the text and the cursor.
  drawn : Text.drawnColumns t.buffer.toList < (fieldInside p area).width
  counted : t.buffer.cursorColumns < (fieldInside p area).width

namespace ShowsText

/-- The whole text is among the symbols that are placed in the field. -/
theorem mem_placed (h : ShowsText c area t p focus) {x : Nat} {g : Glyph}
    (hmem : (x, g) ∈ Line.place (fieldInside p area).x (textLine th t p).glyphs) :
    (x, g) ∈ (fieldLine th t p).placed (fieldInside p area) := by
  obtain ⟨units, hline⟩ : ∃ units, fieldLine th t p = textLine th t p ++ units := by
    rw [fieldLine, if_pos h.edited]
    exact ⟨_, rfl⟩
  have hfits : 0 + Line.columns (textLine th t p).glyphs ≤ (fieldInside p area).width := by
    rw [columns_textLine, Nat.zero_add]
    exact h.drawn.le
  have hglyphs : (fieldLine th t p).glyphs = (textLine th t p).glyphs ++ Line.glyphs units := by
    rw [hline, Line.glyphs, List.flatMap_append]
    rfl
  rw [Line.placed, hglyphs, Line.fit_append _ hfits, Line.place_append]
  exact List.mem_append_left _ hmem

theorem cursor_eq_some_iff (h : ShowsText c area t p focus) (th : Theme) (n : Nat) :
    (draw c area th (.text t) p focus).cursor =
        some ((fieldInside p area).x + n, (fieldInside p area).y) ↔
      t.buffer.cursorColumns = n := by
  have hlimit := width_fieldInside_lt p area
  have hcounted := h.counted
  have hcolumns : min (t.buffer.cursorColumns % columnLimit) ((fieldInside p area).width - 1) =
      t.buffer.cursorColumns := by
    rw [Nat.mod_eq_of_lt (hcounted.trans hlimit)]
    omega
  rw [cursor_text_eq_some_iff, hcolumns, Prod.mk.injEq, Nat.add_right_inj]
  exact ⟨fun hcursor => hcursor.2.1,
    fun hn => ⟨⟨h.connected, h.focused, Nat.zero_lt_of_lt hcounted⟩, hn, rfl⟩⟩

end ShowsText

/-- The columns before the cursor at the end of a text are those that the text takes where it is
drawn exactly if its clusters have no surplus on the whole.  Only a cluster with a joining
character has one, so a text without such characters has its cursor behind its drawn columns.
Where the field of the text is shown with room for both, every symbol of the text is in its
cell, and the cursor is in the cell behind the last one in just this case. -/
theorem cursor_follows_text_iff (atEnd : t.buffer.after = []) :
    let columns := Text.drawnColumns t.buffer.toList
    let surplus := ((Text.clusters t.buffer.toList).map Text.surplus).sum
    (t.buffer.cursorColumns = columns ↔ surplus = 0) ∧
    (∀ k ∈ Text.clusters t.buffer.toList, Text.surplus k ≠ 0 →
      ∃ ch ∈ k, Text.isJoining ch = true) ∧
    ((∀ ch ∈ t.buffer.toList, Text.isJoining ch = false) → t.buffer.cursorColumns = columns) ∧
    ∀ c area p focus, ShowsText c area t p focus → ∀ th,
      let inside := fieldInside p area
      let shown := draw c area th (.text t) p focus
      let placed := Line.place inside.x (textLine th t p).glyphs
      (∀ x g, (x, g) ∈ placed → (shown.canvas.cell x inside.y).symbol = g.symbol) ∧
      (∀ x g, placed.getLast? = some (x, g) → x + g.columns = inside.x + columns) ∧
      (shown.cursor = some (inside.x + columns, inside.y) ↔ surplus = 0) ∧
      ((∀ ch ∈ t.buffer.toList, Text.isJoining ch = false) →
        shown.cursor = some (inside.x + columns, inside.y)) := by
  intro columns surplus
  have htotal : Text.totalColumns t.buffer.toList = t.buffer.cursorColumns := by
    rw [LineBuffer.toList, atEnd, List.append_nil, Text.totalColumns_reverse]
    rfl
  have hsurplus : (t.buffer.cursorColumns : Int) - columns = surplus := by
    rw [← htotal]
    exact Text.totalColumns_sub_drawnColumns t.buffer.toList
  have hcolumns : t.buffer.cursorColumns = columns ↔ surplus = 0 := by
    omega
  have hjoining (h : ∀ ch ∈ t.buffer.toList, Text.isJoining ch = false) :
      t.buffer.cursorColumns = columns :=
    htotal.symm.trans (Text.drawnColumns_eq_totalColumns h).symm
  refine ⟨hcolumns, ?_, hjoining, ?_⟩
  · intro k hk hsurplus
    exact Text.exists_isJoining_of_surplus_ne hk hsurplus
  · intro c area p focus h th inside shown placed
    refine ⟨?_, ?_, ?_, ?_⟩
    · intro x g hmem
      exact symbol_of_mem_placed th focus h.right h.bottom h.row (h.mem_placed hmem)
    · intro x g hlast
      rw [Line.add_columns_of_getLast? hlast, columns_textLine]
    · exact (h.cursor_eq_some_iff th columns).trans hcolumns
    · exact fun hplain => (h.cursor_eq_some_iff th columns).mpr (hjoining hplain)

/-- Two wide characters, of which none joins another, take the columns that are counted for
them. -/
theorem cursor_follows_text_iff_wide :
    let p : EditorProps := { committed := none, format := .text }
    let area : Rect := { width := 60, height := 4 }
    let t : TextDraft := { buffer := .ofText "日本", edited := true }
    t.buffer.after = [] ∧ (∀ ch ∈ t.buffer.toList, Text.isJoining ch = false) ∧
      t.buffer.cursorColumns = Text.drawnColumns t.buffer.toList ∧
      ShowsText (.blank 60 4) area t p ⟨true, false⟩ ∧
      ∀ th, (draw (.blank 60 4) area th (.text t) p ⟨true, false⟩).cursor =
        some ((fieldInside p area).x + Text.drawnColumns t.buffer.toList,
          (fieldInside p area).y) := by
  intro p area t
  have hshows : ShowsText (.blank 60 4) area t p ⟨true, false⟩ :=
    { connected := rfl
      focused := rfl
      edited := rfl
      right := by decide
      bottom := by decide
      row := by decide
      drawn := by decide +kernel
      counted := by decide +kernel }
  have hplain : ∀ ch ∈ t.buffer.toList, Text.isJoining ch = false := by
    have hchars : t.buffer.toList = ['日', '本'] := rfl
    intro ch hch
    have hcases : ch = '日' ∨ ch = '本' := by simpa [hchars] using hch
    rcases hcases with rfl | rfl <;> rfl
  obtain ⟨-, -, hcolumns, hdrawn⟩ := cursor_follows_text_iff (t := t) rfl
  refine ⟨rfl, hplain, hcolumns hplain, hshows, ?_⟩
  intro th
  exact (hdrawn (.blank 60 4) area p ⟨true, false⟩ hshows th).2.2.2 hplain

/-- The cursor behind an emoji of two pictographs and a joiner is two cells too far to the
right. -/
theorem joined_emoji_has_cursor_beyond :
    let p : EditorProps := { committed := none, format := .text }
    let area : Rect := { width := 60, height := 4 }
    let t : TextDraft := { buffer := .ofText "👩‍🚀", edited := true }
    let cursor := (draw (.blank 60 4) area Palette.dracula.theme (.text t) p ⟨true, false⟩).cursor
    t.buffer.after = [] ∧ ShowsText (.blank 60 4) area t p ⟨true, false⟩ ∧
      t.buffer.cursorColumns = 4 ∧ Text.drawnColumns t.buffer.toList = 2 ∧
      cursor = some ((fieldInside p area).x + 4, (fieldInside p area).y) ∧
      cursor ≠ some ((fieldInside p area).x + Text.drawnColumns t.buffer.toList,
        (fieldInside p area).y) := by
  intro p area t cursor
  have hcounted : t.buffer.cursorColumns = 4 := by decide +kernel
  have hdrawn : Text.drawnColumns t.buffer.toList = 2 := by decide +kernel
  have hshows : ShowsText (.blank 60 4) area t p ⟨true, false⟩ :=
    { connected := rfl
      focused := rfl
      edited := rfl
      right := by decide
      bottom := by decide
      row := by decide
      drawn := by rw [hdrawn]; decide
      counted := by rw [hcounted]; decide }
  have hcursor := hshows.cursor_eq_some_iff Palette.dracula.theme
  refine ⟨rfl, hshows, hcounted, hdrawn, (hcursor 4).mpr hcounted, ?_⟩
  rw [hdrawn]
  intro htwo
  have hcolumns := (hcursor 2).mp htwo
  rw [hcounted] at hcolumns
  cases hcolumns

end Editor

end DevicePanel
