import DevicePanel.Button
import DevicePanel.Toggle

/-!
# Where drawing changes a canvas

Everything that is drawn into an area changes cells of the area only.  That holds of single
cells and rows, so it holds of what is made of them: paragraphs, labels, frames, buttons and
switches.  The two ways to write text need a reason each.  A line of a paragraph takes no more
columns than its area has.  A label stops before a symbol that would go beyond its area, and a
symbol without columns joins one that stands in the area already.
-/

namespace DevicePanel

namespace Rect

/-- Every cell of the first area is one of the second. -/
def Within (r s : Rect) : Prop := ∀ x y, r.contains x y = true → s.contains x y = true

theorem within_clip (r : Rect) (width height : Nat) : (r.clip width height).Within r := by
  intro x y h
  simp only [contains_eq_true_iff, clip, right, bottom] at h ⊢
  omega

theorem within_inner (r : Rect) : r.inner.Within r := by
  intro x y h
  simp only [contains_eq_true_iff, inner, right, bottom] at h ⊢
  omega

theorem within_dropColumns (r : Rect) (n : Nat) : (r.dropColumns n).Within r := by
  intro x y h
  simp only [contains_eq_true_iff, dropColumns, right, bottom] at h ⊢
  omega

end Rect

/-- A cell with a symbol written into it. -/
def Glyph.into (g : Glyph) (cell : Cell) : Cell := (cell.withSymbol g.symbol).styled g.style

/-- The symbols of a line that begins at the left of an area, each with its column. -/
def Line.placed (line : Line) (area : Rect) : List (Nat × Glyph) :=
  Line.place area.x (Line.fit area.width 0 line.glyphs)

namespace Canvas

/-- Only cells of a region may look different afterwards. -/
structure ChangesOnly (region : Nat → Nat → Bool) (before after : Canvas) : Prop where
  width : after.width = before.width
  height : after.height = before.height
  cell : ∀ x y, region x y = false → after.cell x y = before.cell x y

/-- The cells of one row from a column up to another. -/
def inRow (y start stop x y' : Nat) : Bool := y' == y && (decide (start ≤ x) && decide (x < stop))

theorem inRow_eq_true_iff {y start stop x y' : Nat} :
    inRow y start stop x y' = true ↔ y' = y ∧ start ≤ x ∧ x < stop := by
  simp [inRow]

namespace ChangesOnly

variable {region region' : Nat → Nat → Bool} {c d e : Canvas}

theorem refl (region : Nat → Nat → Bool) (c : Canvas) : ChangesOnly region c c :=
  ⟨rfl, rfl, fun _ _ _ => rfl⟩

theorem trans (h : ChangesOnly region c d) (h' : ChangesOnly region d e) :
    ChangesOnly region c e where
  width := h'.width.trans h.width
  height := h'.height.trans h.height
  cell x y hxy := (h'.cell x y hxy).trans (h.cell x y hxy)

theorem mono (h : ChangesOnly region c d)
    (hregion : ∀ x y, region x y = true → region' x y = true) : ChangesOnly region' c d where
  width := h.width
  height := h.height
  cell x y hxy := by
    apply h.cell
    rw [← Bool.not_eq_true] at hxy ⊢
    exact fun hin => hxy (hregion x y hin)

/-- What changes only a region at every step changes only the region. -/
theorem foldl {α : Type} {f : Canvas → α → Canvas} {as : List α}
    (h : ∀ a ∈ as, ∀ c, ChangesOnly region c (f c a)) (c : Canvas) :
    ChangesOnly region c (as.foldl f c) := by
  induction as generalizing c with
  | nil => exact refl region c
  | cons a as ih =>
      have hhead : ChangesOnly region c (f c a) := h a List.mem_cons_self c
      exact hhead.trans (ih (fun b hb => h b (List.mem_cons_of_mem a hb)) (f c a))

end ChangesOnly

/-! ## Cells, rows and areas -/

variable {region : Nat → Nat → Bool} {c : Canvas}

theorem changesOnly_modify {x y : Nat} (h : region x y = true) (c : Canvas) (f : Cell → Cell) :
    c.ChangesOnly region (c.modify x y f) where
  width := c.width_modify x y f
  height := c.height_modify x y f
  cell x' y' hout := by
    apply c.cell_modify_of_ne
    rintro ⟨rfl, rfl⟩
    rw [h] at hout
    cases hout

theorem changesOnly_modifyRow (c : Canvas) (x y : Nat) (f : Cell → Cell) (n : Nat) :
    c.ChangesOnly (inRow y x (x + n)) (c.modifyRow x y f n) := by
  induction n generalizing c x with
  | zero => exact .refl _ c
  | succ n ih =>
      have hfirst : inRow y x (x + (n + 1)) x y = true := by
        rw [inRow_eq_true_iff]
        omega
      have hrest : ∀ x' y', inRow y (x + 1) (x + 1 + n) x' y' = true →
          inRow y x (x + (n + 1)) x' y' = true := by
        intro x' y' h
        rw [inRow_eq_true_iff] at h ⊢
        omega
      exact (changesOnly_modify hfirst c f).trans ((ih (c.modify x y f) (x + 1)).mono hrest)

theorem changesOnly_modifyRows (c : Canvas) (x y columns : Nat) (f : Cell → Cell) (n : Nat) :
    c.ChangesOnly (Rect.contains ⟨x, y, columns, n⟩) (c.modifyRows x y columns f n) := by
  induction n generalizing c y with
  | zero => exact .refl _ c
  | succ n ih =>
      have hfirst : ∀ x' y', inRow y x (x + columns) x' y' = true →
          Rect.contains ⟨x, y, columns, n + 1⟩ x' y' = true := by
        intro x' y' h
        rw [inRow_eq_true_iff] at h
        rw [Rect.contains_eq_true_iff, Rect.right, Rect.bottom]
        dsimp only
        omega
      have hrest : Rect.Within ⟨x, y + 1, columns, n⟩ ⟨x, y, columns, n + 1⟩ := by
        intro x' y' h
        simp only [Rect.contains_eq_true_iff, Rect.right, Rect.bottom] at h ⊢
        omega
      exact ((c.changesOnly_modifyRow x y f columns).mono hfirst).trans ((ih _ (y + 1)).mono hrest)

theorem changesOnly_style (c : Canvas) (r : Rect) (s : Style) :
    c.ChangesOnly r.contains (c.style r s) :=
  (c.changesOnly_modifyRows _ _ _ _ _).mono (r.within_clip c.width c.height)

/-! ## Paragraphs -/

theorem columns_cons (g : Glyph) (rest : List Glyph) :
    Line.columns (g :: rest) = g.columns + Line.columns rest := rfl

/-- The symbols that fit into a width take no more columns. -/
theorem columns_fit_le (width : Nat) {used : Nat} (glyphs : List Glyph) (h : used ≤ width) :
    used + Line.columns (Line.fit width used glyphs) ≤ width := by
  induction glyphs generalizing used with
  | nil => exact h
  | cons g rest ih =>
      rw [Line.fit]
      split
      · exact ih h
      · split
        · exact h
        next hfits =>
          rw [columns_cons, ← Nat.add_assoc]
          exact ih (Nat.not_lt.mp hfits)

/-- Symbols are placed one behind the other. -/
theorem mem_place {x x' : Nat} {g : Glyph} {glyphs : List Glyph}
    (h : (x', g) ∈ Line.place x glyphs) :
    x ≤ x' ∧ x' + g.columns ≤ x + Line.columns glyphs ∧ 0 < g.columns := by
  induction glyphs generalizing x with
  | nil => cases h
  | cons first rest ih =>
      rw [columns_cons]
      rw [Line.place] at h
      split at h
      · obtain ⟨hx, hright, hpos⟩ := ih h
        exact ⟨hx, by omega, hpos⟩
      next hcolumns =>
        rw [beq_iff_eq] at hcolumns
        rcases List.mem_cons.mp h with heq | hrest
        · obtain ⟨rfl, rfl⟩ := Prod.mk.inj heq
          exact ⟨Nat.le_refl _, by omega, by omega⟩
        · obtain ⟨hx, hright, hpos⟩ := ih hrest
          exact ⟨by omega, by omega, hpos⟩

/-- A line of up to as many columns as its area has stands in the area. -/
theorem offset_add_le (a : Alignment) {width length : Nat} (h : length ≤ width) :
    a.offset width length + length ≤ width := by
  cases a with
  | left =>
      rw [Alignment.offset]
      omega
  | center =>
      rw [Alignment.offset]
      omega

theorem changesOnly_writeLine (c : Canvas) {area : Rect} {y : Nat} (a : Alignment) (line : Line)
    (htop : area.y ≤ y) (hbottom : y < area.bottom) :
    c.ChangesOnly area.contains (c.writeLine area y a line) := by
  apply ChangesOnly.foldl
  rintro ⟨x, g⟩ hmem c'
  apply changesOnly_modify
  have hfit := columns_fit_le area.width line.glyphs (Nat.zero_le area.width)
  rw [Nat.zero_add] at hfit
  have hoffset := offset_add_le a hfit
  obtain ⟨hleft, hright, hpos⟩ := mem_place hmem
  rw [Rect.contains_eq_true_iff, Rect.right]
  exact ⟨by omega, by omega, htop, hbottom⟩

theorem changesOnly_writeLines (c : Canvas) {area : Rect} (a : Alignment) {y : Nat}
    (lines : List Line) (htop : area.y ≤ y) :
    c.ChangesOnly area.contains (c.writeLines area a y lines) := by
  induction lines generalizing c y with
  | nil => exact .refl _ c
  | cons line rest ih =>
      rw [writeLines]
      split
      next hbottom =>
        exact (c.changesOnly_writeLine a line htop hbottom).trans
          (ih (c.writeLine area y a line) (Nat.le_succ_of_le htop))
      · exact .refl _ c

theorem changesOnly_paragraph (c : Canvas) (area : Rect) (lines : List Line) (a : Alignment) :
    c.ChangesOnly area.contains (c.paragraph area lines a) :=
  (c.changesOnly_writeLines a lines (Nat.le_refl _)).mono (area.within_clip c.width c.height)

/-! ## The cells of a line -/

theorem pairwise_place (x : Nat) (glyphs : List Glyph) :
    (Line.place x glyphs).Pairwise fun a b => a.1 < b.1 := by
  induction glyphs generalizing x with
  | nil => exact .nil
  | cons g rest ih =>
      rw [Line.place]
      split
      · exact ih x
      next hcolumns =>
        rw [beq_iff_eq] at hcolumns
        refine .cons ?_ (ih (x + g.columns))
        rintro ⟨x', g'⟩ hmem
        have hleft := (mem_place hmem).1
        dsimp only
        omega

/-- A symbol that is written behind all others of a row is found in its cell. -/
theorem cell_writes {placed : List (Nat × Glyph)} (hplaced : placed.Pairwise fun a b => a.1 < b.1)
    {x y : Nat} {g : Glyph} (hmem : (x, g) ∈ placed) (hx : x < c.width) (hy : y < c.height) :
    (placed.foldl (fun c (x, g) => c.write x y g) c).cell x y = g.into (c.cell x y) := by
  induction placed generalizing c with
  | nil => cases hmem
  | cons first rest ih =>
      obtain ⟨x', g'⟩ := first
      obtain ⟨hfirst, hrest⟩ := List.pairwise_cons.mp hplaced
      rw [List.foldl_cons]
      rcases List.mem_cons.mp hmem with heq | hlater
      · obtain ⟨rfl, rfl⟩ := Prod.mk.inj heq
        have hbehind : ChangesOnly (fun x' _ => decide (x < x')) (c.write x y g)
            (rest.foldl (fun c (x, g) => c.write x y g) (c.write x y g)) :=
          ChangesOnly.foldl (fun a ha c => changesOnly_modify (decide_eq_true (hfirst a ha)) c _) _
        rw [hbehind.cell x y (by simp)]
        exact c.cell_modify_self _ hx hy
      · have hne : ¬(x = x' ∧ y = y) := fun h => absurd (hfirst _ hlater) (by simp [h.1])
        rw [ih hrest hlater (by simpa [write] using hx) (by simpa [write] using hy)]
        exact congrArg g.into (c.cell_modify_of_ne _ hne)

/-- A line in the first row of an area that ends on the canvas. -/
theorem paragraph_line {r : Rect} (hheight : 0 < r.height) (hright : r.right ≤ c.width)
    (line : Line) :
    c.paragraph r [line] =
      if r.y < c.height then
        (line.placed r).foldl (fun c (x, g) => c.write x r.y g) c
      else c := by
  have hclip : (r.clip c.width c.height).width = r.width := by
    rw [Rect.right] at hright
    simp only [Rect.clip, Rect.right]
    omega
  have hbottom : r.y < (r.clip c.width c.height).bottom ↔ r.y < c.height := by
    simp only [Rect.clip, Rect.bottom]
    omega
  have hline : c.writeLine (r.clip c.width c.height) r.y .left line =
      (line.placed r).foldl (fun c (x, g) => c.write x r.y g) c := by
    rw [writeLine, hclip]
    rfl
  have hrows : c.paragraph r [line] =
      if r.y < (r.clip c.width c.height).bottom then
        c.writeLine (r.clip c.width c.height) r.y .left line
      else c := rfl
  rw [hrows, hline]
  simp only [hbottom]

theorem cell_paragraph_of_mem {r : Rect} {line : Line} (hheight : 0 < r.height)
    (hright : r.right ≤ c.width) (hrow : r.y < c.height) {x : Nat} {g : Glyph}
    (hmem : (x, g) ∈ line.placed r) :
    (c.paragraph r [line]).cell x r.y = g.into (c.cell x r.y) := by
  have hfit := columns_fit_le r.width line.glyphs (Nat.zero_le r.width)
  have hplace := mem_place hmem
  rw [Rect.right] at hright
  rw [paragraph_line hheight hright, if_pos hrow]
  exact cell_writes (pairwise_place _ _) hmem (by omega) hrow

theorem cell_paragraph_of_not_mem {r : Rect} {line : Line} (hheight : 0 < r.height)
    (hright : r.right ≤ c.width) {x y : Nat}
    (h : r.y < c.height → y = r.y → ∀ g, (x, g) ∉ line.placed r) :
    (c.paragraph r [line]).cell x y = c.cell x y := by
  rw [paragraph_line hheight hright]
  split
  next hrow =>
    have hwritten : ChangesOnly (fun x y => (line.placed r).any (·.1 == x) && y == r.y) c
        ((line.placed r).foldl (fun c (x, g) => c.write x r.y g) c) := by
      apply ChangesOnly.foldl
      rintro ⟨x', g⟩ hmem c'
      apply changesOnly_modify
      rw [Bool.and_eq_true, List.any_eq_true]
      exact ⟨⟨(x', g), hmem, beq_self_eq_true x'⟩, beq_self_eq_true r.y⟩
    apply hwritten.cell
    rw [← Bool.not_eq_true, Bool.and_eq_true, List.any_eq_true]
    rintro ⟨⟨⟨x', g⟩, hmem, hx⟩, hy⟩
    rw [beq_iff_eq] at hx hy
    exact h hrow hy g (hx ▸ hmem)
  · rfl

/-! ## Labels -/

theorem changesOnly_hide (c : Canvas) {x y start stop : Nat} {g : Glyph} (hstart : start ≤ x)
    (hstop : x + g.columns ≤ stop) : c.ChangesOnly (inRow y start stop) (c.hide x y g) := by
  apply (c.changesOnly_modifyRow (x + 1) y _ (g.columns - 1)).mono
  intro x' y' h
  rw [inRow_eq_true_iff] at h ⊢
  omega

theorem changesOnly_writeFollowing (c : Canvas) {y start stop x : Nat} (glyphs : List Glyph)
    (hstop : start < stop) (hstart : start ≤ x) :
    c.ChangesOnly (inRow y start stop) (c.writeFollowing y start stop x glyphs) := by
  induction glyphs generalizing c x with
  | nil => exact .refl _ c
  | cons g rest ih =>
      rw [writeFollowing]
      split
      · exact .refl _ c
      next hfits =>
        have hright : x + g.columns ≤ stop := Nat.not_lt.mp hfits
        refine ChangesOnly.trans ?_ (ih _ (Nat.le_add_right_of_le hstart))
        refine ChangesOnly.trans ?_ (changesOnly_hide _ hstart hright)
        split
        next hfirst =>
          have hx : x = start := by simpa using hfirst
          apply changesOnly_modify
          rw [inRow_eq_true_iff]
          omega
        next hlater =>
          have hx : x ≠ start := by simpa using hlater
          split
          next hnarrow =>
            apply changesOnly_modify
            rw [inRow_eq_true_iff]
            omega
          next hwide =>
            have hcolumns : g.columns ≠ 0 := by simpa using hwide
            apply changesOnly_modify
            rw [inRow_eq_true_iff]
            omega

theorem changesOnly_writeSpan (c : Canvas) {area : Rect} (h : area.isEmpty = false) (s : Span) :
    c.ChangesOnly area.contains (c.writeSpan area s) := by
  simp only [Rect.isEmpty, Bool.or_eq_false_iff, beq_eq_false_iff_ne] at h
  obtain ⟨hwidth, hheight⟩ := h
  have hright : area.x < area.right := by
    rw [Rect.right]
    omega
  have hrow : ∀ x y, inRow area.y area.x area.right x y = true → area.contains x y = true := by
    intro x y h
    rw [inRow_eq_true_iff] at h
    rw [Rect.contains_eq_true_iff, Rect.bottom]
    omega
  refine ChangesOnly.mono ?_ hrow
  rw [writeSpan]
  split
  · exact .refl _ c
  · split
    · exact .refl _ c
    next g rest _ hfits =>
      have hfirst : inRow area.y area.x area.right area.x area.y = true := by
        rw [inRow_eq_true_iff]
        exact ⟨rfl, Nat.le_refl _, hright⟩
      exact ((changesOnly_modify hfirst c _).trans
        (changesOnly_hide _ (Nat.le_refl _) (Nat.not_lt.mp hfits))).trans
        (changesOnly_writeFollowing _ rest hright (Nat.le_add_right _ _))

theorem changesOnly_writeSpans (c : Canvas) (area : Rect) (spans : List Span) :
    c.ChangesOnly area.contains (c.writeSpans area spans) := by
  induction spans generalizing c area with
  | nil => exact .refl _ c
  | cons s rest ih =>
      rw [writeSpans]
      split
      · exact .refl _ c
      next hempty =>
        rw [Bool.not_eq_true] at hempty
        split
        · exact ih c area
        · exact (c.changesOnly_writeSpan hempty s).trans
            ((ih _ _).mono (area.within_dropColumns s.width))

theorem changesOnly_label (c : Canvas) (area : Rect) (line : Line) :
    c.ChangesOnly area.contains (c.label area line) :=
  (c.changesOnly_writeSpans _ line).mono (area.within_clip c.width c.height)

/-! ## Frames -/

theorem changesOnly_across (c : Canvas) {r : Rect} {y : Nat} (f : Cell → Cell)
    (h : r.y ≤ y ∧ y < r.bottom) : c.ChangesOnly r.contains (c.modifyRow r.x y f r.width) := by
  apply (c.changesOnly_modifyRow r.x y f r.width).mono
  intro x' y' hin
  rw [inRow_eq_true_iff] at hin
  rw [Rect.contains_eq_true_iff, Rect.right]
  omega

theorem changesOnly_down (c : Canvas) {r : Rect} {x : Nat} (f : Cell → Cell)
    (h : r.x ≤ x ∧ x < r.right) : c.ChangesOnly r.contains (c.modifyRows x r.y 1 f r.height) := by
  apply (c.changesOnly_modifyRows x r.y 1 f r.height).mono
  intro x' y' hin
  simp only [Rect.contains_eq_true_iff, Rect.right, Rect.bottom] at *
  omega

theorem changesOnly_drawBorder (c : Canvas) {r : Rect} (h : r.isEmpty = false) (s : Style) :
    c.ChangesOnly r.contains (c.drawBorder r s) := by
  simp only [Rect.isEmpty, Bool.or_eq_false_iff, beq_eq_false_iff_ne] at h
  have hleft : r.x ≤ r.x ∧ r.x < r.right := by
    rw [Rect.right]
    omega
  have hright : r.x ≤ r.right - 1 ∧ r.right - 1 < r.right := by
    rw [Rect.right]
    omega
  have htop : r.y ≤ r.y ∧ r.y < r.bottom := by
    rw [Rect.bottom]
    omega
  have hlast : r.y ≤ r.bottom - 1 ∧ r.bottom - 1 < r.bottom := by
    rw [Rect.bottom]
    omega
  have hcorner : ∀ {x y : Nat}, r.x ≤ x ∧ x < r.right → r.y ≤ y ∧ y < r.bottom →
      r.contains x y = true := by
    rintro x y ⟨hx, hx'⟩ ⟨hy, hy'⟩
    exact (r.contains_eq_true_iff x y).mpr ⟨hx, hx', hy, hy'⟩
  -- From the corner that is drawn last back to the side that is drawn first.
  refine .trans ?_ (changesOnly_modify (hcorner hleft htop) _ _)
  refine .trans ?_ (changesOnly_modify (hcorner hleft hlast) _ _)
  refine .trans ?_ (changesOnly_modify (hcorner hright htop) _ _)
  refine .trans ?_ (changesOnly_modify (hcorner hright hlast) _ _)
  refine .trans ?_ (changesOnly_across _ _ hlast)
  refine .trans ?_ (changesOnly_down _ _ hright)
  refine .trans ?_ (changesOnly_across _ _ htop)
  exact changesOnly_down c _ hleft

theorem within_titleArea {r : Rect} (h : r.isEmpty = false) (title : Span) :
    (titleArea r title).Within r := by
  simp only [Rect.isEmpty, Bool.or_eq_false_iff, beq_eq_false_iff_ne] at h
  intro x y hin
  simp only [Rect.contains_eq_true_iff, titleArea, Rect.right, Rect.bottom] at hin ⊢
  omega

theorem changesOnly_frame (c : Canvas) (area : Rect) (f : Frame) :
    c.ChangesOnly area.contains (c.frame area f) := by
  refine ChangesOnly.mono ?_ (area.within_clip c.width c.height)
  rw [frame]
  dsimp only
  split
  · exact .refl _ c
  next hempty =>
    rw [Bool.not_eq_true] at hempty
    have hborder := (c.changesOnly_style (area.clip c.width c.height) f.surface).trans
      (changesOnly_drawBorder _ hempty f.border)
    split
    next title _ =>
      exact hborder.trans ((changesOnly_label _ _ [title]).mono (within_titleArea hempty title))
    · exact hborder

end Canvas

/-! ## Buttons and switches -/

theorem Button.within_labelArea (area : Rect) (height : Nat) (framed : Bool) :
    (labelArea area height framed).Within area := by
  intro x y h
  cases framed with
  | true =>
      rw [labelArea] at h
      split at h
      · exact area.within_inner x y h
      · apply area.within_inner x y
        simp only [Rect.contains_eq_true_iff, Rect.right, Rect.bottom, if_true] at h ⊢
        omega
  | false =>
      simp only [labelArea, Bool.false_and, Bool.false_eq_true, if_false,
        Rect.contains_eq_true_iff, Rect.right, Rect.bottom] at h ⊢
      omega

theorem Button.changesOnly_draw (c : Canvas) (area : Rect) (t : Theme) (label : String)
    (looks : Looks) : c.ChangesOnly area.contains (Button.draw c area t label looks) := by
  refine Canvas.ChangesOnly.mono ?_ (area.within_clip c.width c.height)
  have hstyle := c.changesOnly_style (area.clip c.width c.height)
    (t.buttonStyle looks.enabled looks.focused)
  have hlabel := fun c' : Canvas => (c'.changesOnly_paragraph _ (labelLines label) .center).mono
    (within_labelArea (area.clip c.width c.height) area.height looks.framed)
  rw [Button.draw]
  split
  · exact (hstyle.trans (Canvas.changesOnly_frame _ _ _)).trans (hlabel _)
  · exact hstyle.trans (hlabel _)

theorem Toggle.changesOnly_draw (c : Canvas) (area : Rect) (t : Theme) (on enabled focused : Bool) :
    c.ChangesOnly area.contains (Toggle.draw c area t on enabled focused) :=
  c.changesOnly_paragraph area _ .left

end DevicePanel
