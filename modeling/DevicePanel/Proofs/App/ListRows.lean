import DevicePanel.Proofs.App.Frame
import DevicePanel.Proofs.Panel.Selection

/-!
# The rows of the list under the pointer

The list draws its entries between its borders, one on each row.  The pointer counts the
rows from the first of them and does not ask where they end: the upper border counts as
the first row, and the lower one as the row behind the last.  So the pointer finds what
has been drawn on a row, an entry or nothing, except on the borders: there it finds an
entry as long as its count is that of one.
-/

namespace DevicePanel

namespace Panel

/-- What a list draws in an area: entries with their indices, and the row of the screen
for each. -/
def drawnRows (p : Panel) (area : Rect) : List ((Entry × Nat) × Nat) :=
  if area.inner.isEmpty then []
  else
    (p.shownEntries area.inner.height).zipIdx.map fun (shown, row) =>
      (shown, area.inner.y + row)

/-- Besides its frame a list draws its drawn rows and nothing else, so what is said of them
is said of the drawing. -/
theorem drawList_eq (c : Canvas) (area : Rect) (t : Theme) (p : Panel) :
    drawList c area t p =
      (p.drawnRows area).foldl
        (fun c ((e, index), y) => drawEntry p t area.inner c e index y)
        (c.frame area (t.frame (some "Parameters") (p.focus.isOn .list))) := by
  rw [drawList, drawnRows]
  split
  · rfl
  · rw [List.foldl_map]

/-- The index of the entry that was drawn on a row of the screen. -/
def drawnIndex? (p : Panel) (y : Nat) : Option Nat :=
  ((p.drawnRows p.listArea).find? fun drawn => drawn.2 == y).map fun drawn => drawn.1.2

/-! ## Where the rows are -/

theorem getElem?_shownEntries (p : Panel) (rows row : Nat) :
    (p.shownEntries rows)[row]? =
      if row < rows then (p.entries[p.offset + row]?).map fun e => (e, p.offset + row)
      else none := by
  rw [shownEntries, List.getElem?_take]
  split
  · rw [List.getElem?_drop, List.getElem?_zipIdx, Nat.zero_add]
  · rfl

theorem mem_drawnRows_iff {p : Panel} {area : Rect} {e : Entry} {i y : Nat} :
    ((e, i), y) ∈ p.drawnRows area ↔
      area.inner.isEmpty = false ∧ p.entries[i]? = some e ∧
        ∃ row < area.inner.height, i = p.offset + row ∧ y = area.inner.y + row := by
  rw [drawnRows]
  cases harea : area.inner.isEmpty with
  | true =>
      constructor
      · intro h
        cases h
      · rintro ⟨h, -⟩
        cases h
  | false =>
      rw [if_neg Bool.false_ne_true, List.mem_map]
      constructor
      · rintro ⟨⟨shown, row⟩, hmem, heq⟩
        rw [List.mk_mem_zipIdx_iff_getElem?, getElem?_shownEntries] at hmem
        obtain ⟨rfl, rfl⟩ := Prod.mk.inj heq
        split at hmem
        next hrow =>
          obtain ⟨e', he, heq⟩ := Option.map_eq_some_iff.mp hmem
          obtain ⟨rfl, rfl⟩ := Prod.mk.inj heq
          exact ⟨rfl, he, row, hrow, rfl, rfl⟩
        · cases hmem
      · rintro ⟨-, he, row, hrow, rfl, rfl⟩
        refine ⟨((e, p.offset + row), row), ?_, rfl⟩
        rw [List.mk_mem_zipIdx_iff_getElem?, getElem?_shownEntries, if_pos hrow, he]
        rfl

/-- The row of the screen is one of those between the borders of the list, and the list
has columns between its borders. -/
def IsInside (p : Panel) (y : Nat) : Prop :=
  2 < p.listArea.width ∧ p.listArea.y < y ∧ y + 1 < p.listArea.bottom

theorem isEmpty_inner_iff (r : Rect) :
    r.inner.isEmpty = false ↔ 2 < r.width ∧ 2 < r.height := by
  simp only [Rect.isEmpty, Rect.inner, Bool.or_eq_false_iff, beq_eq_false_iff_ne]
  omega

/-- Entries are drawn inside the list, each where the pointer counts it. -/
theorem exists_mem_drawnRows_iff {p : Panel} {i y : Nat} :
    (∃ e, ((e, i), y) ∈ p.drawnRows p.listArea) ↔
      p.IsInside y ∧ i = p.rowIndex y ∧ i < p.entries.length := by
  have hrows : p.listArea.inner.height = p.listArea.height - 2 := rfl
  have htop : p.listArea.inner.y = min (p.listArea.y + 1) (p.listArea.y + p.listArea.height) :=
    rfl
  have hbottom : p.listArea.bottom = p.listArea.y + p.listArea.height := rfl
  constructor
  · rintro ⟨e, hmem⟩
    obtain ⟨hinner, he, row, hrow, hi, hy⟩ := mem_drawnRows_iff.mp hmem
    obtain ⟨hwidth, hheight⟩ := (isEmpty_inner_iff _).mp hinner
    obtain ⟨hlt, -⟩ := List.getElem?_eq_some_iff.mp he
    refine ⟨⟨hwidth, by omega, by omega⟩, ?_, hlt⟩
    rw [rowIndex]
    omega
  · rintro ⟨⟨hwidth, habove, hbelow⟩, hi, hlt⟩
    rw [rowIndex] at hi
    have hinner : p.listArea.inner.isEmpty = false :=
      (isEmpty_inner_iff _).mpr ⟨hwidth, by omega⟩
    exact ⟨p.entries[i], mem_drawnRows_iff.mpr ⟨hinner, List.getElem?_eq_getElem hlt,
      y - (p.listArea.y + 1), by omega, by omega, by omega⟩⟩

theorem drawnIndex?_eq_some_iff {p : Panel} {i y : Nat} :
    p.drawnIndex? y = some i ↔
      p.IsInside y ∧ i = p.rowIndex y ∧ i < p.entries.length := by
  rw [← exists_mem_drawnRows_iff, drawnIndex?, Option.map_eq_some_iff]
  constructor
  · rintro ⟨⟨⟨e, j⟩, y'⟩, hfind, rfl⟩
    have hrow : y' = y := by simpa using List.find?_some hfind
    exact ⟨e, hrow ▸ List.mem_of_find?_eq_some hfind⟩
  · rintro ⟨e, hmem⟩
    have hfound : ((p.drawnRows p.listArea).find? fun drawn => drawn.2 == y).isSome = true :=
      List.find?_isSome.mpr ⟨((e, i), y), hmem, beq_self_eq_true y⟩
    obtain ⟨⟨⟨e', j⟩, y'⟩, hfind⟩ := Option.isSome_iff_exists.mp hfound
    have hrow : y' = y := by simpa using List.find?_some hfind
    have hmem' : ((e', j), y) ∈ p.drawnRows p.listArea :=
      hrow ▸ List.mem_of_find?_eq_some hfind
    obtain ⟨-, hi, -⟩ := exists_mem_drawnRows_iff.mp ⟨e, hmem⟩
    obtain ⟨-, hj, -⟩ := exists_mem_drawnRows_iff.mp ⟨e', hmem'⟩
    exact ⟨_, hfind, hj.trans hi.symm⟩

theorem drawnIndex?_of_inside {p : Panel} {y : Nat} (inside : p.IsInside y)
    (h : p.rowIndex y < p.entries.length) : p.drawnIndex? y = some (p.rowIndex y) :=
  drawnIndex?_eq_some_iff.mpr ⟨inside, rfl, h⟩

theorem drawnIndex?_of_le {p : Panel} {y : Nat} (h : p.entries.length ≤ p.rowIndex y) :
    p.drawnIndex? y = none := by
  rw [Option.eq_none_iff_forall_ne_some]
  intro i hi
  obtain ⟨-, rfl, hlt⟩ := drawnIndex?_eq_some_iff.mp hi
  omega

theorem drawnIndex?_of_not_inside {p : Panel} {y : Nat} (h : ¬ p.IsInside y) :
    p.drawnIndex? y = none := by
  rw [Option.eq_none_iff_forall_ne_some]
  intro i hi
  exact h (drawnIndex?_eq_some_iff.mp hi).1

/-! ## What the pointer finds -/

variable {p : Panel} {x y : Nat}

theorem selected_choose {i : Nat} (h : i < p.entries.length) :
    (p.choose i).selected = some i := by
  have hne : p.entries ≠ [] := List.ne_nil_of_length_pos (by omega)
  have hlast : min i (p.entries.length - 1) = i := by omega
  rw [(isChosen_choose hne i).1, hlast]

theorem selected_press (connected : Bool) (h : p.listArea.contains x y = true) :
    (p.pointer connected ⟨.press, x, y⟩).1.selected =
      if p.rowIndex y < p.entries.length then some (p.rowIndex y) else p.selected := by
  rw [pointer, h]
  dsimp only
  rw [if_pos rfl, listPress]
  split
  next hlt => exact selected_choose hlt
  · rfl

theorem hovered_move (connected : Bool) (h : p.listArea.contains x y = true) :
    (p.pointer connected ⟨.move, x, y⟩).1.hovered =
      if p.rowIndex y < p.entries.length then some (p.rowIndex y) else none := by
  rw [pointer, h]
  dsimp only
  rw [if_pos rfl, hover]
  by_cases hlt : p.rowIndex y < p.entries.length
  · have hkept : (some (p.rowIndex y)).filter (fun i => decide (i < p.entries.length)) =
        some (p.rowIndex y) := Option.filter_some_pos (decide_eq_true hlt)
    rw [if_pos hlt]
    exact hkept
  · have hdropped : (some (p.rowIndex y)).filter (fun i => decide (i < p.entries.length)) =
        none := Option.filter_some_neg (decide_eq_false hlt)
    rw [if_neg hlt]
    exact hdropped

end Panel

namespace App

/-- On every cell of the list in every state behind a frame, the pointer marks what was
drawn on the row exactly if the row is inside the list or the count of the pointer is
behind the last entry.  A press finds it then too, and also where it finds the entry that
is selected anyway.  Everywhere else, on the borders, nothing was drawn, and the pointer
finds the entry of its count nevertheless. -/
theorem pointer_finds_drawn_row_iff (app : App) (width height : Nat) {x y : Nat} :
    let drawn := (app.frame width height).1
    let p := drawn.panel
    p.listArea.contains x y = true →
      let pressed := (drawn.handle (.pointer ⟨.press, x, y⟩)).1.panel
      let moved := (drawn.handle (.pointer ⟨.move, x, y⟩)).1.panel
      (moved.hovered = p.drawnIndex? y ↔
          p.IsInside y ∨ p.entries.length ≤ p.rowIndex y) ∧
        (pressed.selected = (p.drawnIndex? y).or p.selected ↔
          p.IsInside y ∨ p.entries.length ≤ p.rowIndex y ∨
            p.selected = some (p.rowIndex y)) ∧
        (¬ p.IsInside y → p.rowIndex y < p.entries.length →
          p.drawnIndex? y = none ∧ moved.hovered = some (p.rowIndex y) ∧
            pressed.selected = some (p.rowIndex y)) := by
  intro drawn p hcontains pressed moved
  have hpressed : pressed.selected =
      if p.rowIndex y < p.entries.length then some (p.rowIndex y) else p.selected :=
    Panel.selected_press drawn.connected hcontains
  have hmoved : moved.hovered =
      if p.rowIndex y < p.entries.length then some (p.rowIndex y) else none :=
    Panel.hovered_move drawn.connected hcontains
  rw [hpressed, hmoved]
  by_cases hlt : p.rowIndex y < p.entries.length
  · rw [if_pos hlt, if_pos hlt]
    have hle : ¬ p.entries.length ≤ p.rowIndex y := by omega
    by_cases hinside : p.IsInside y
    · rw [Panel.drawnIndex?_of_inside hinside hlt, Option.some_or]
      exact ⟨iff_of_true rfl (.inl hinside), iff_of_true rfl (.inl hinside),
        fun houtside => absurd hinside houtside⟩
    · rw [Panel.drawnIndex?_of_not_inside hinside, Option.none_or]
      refine ⟨iff_of_false (Option.some_ne_none _) ?_, ?_, fun _ _ => ⟨rfl, rfl, rfl⟩⟩
      · rintro (h | h)
        · exact hinside h
        · exact hle h
      · constructor
        · intro h
          exact .inr (.inr h.symm)
        · rintro (h | h | h)
          · exact absurd h hinside
          · exact absurd h hle
          · exact h.symm
  · rw [if_neg hlt, if_neg hlt]
    have hle : p.entries.length ≤ p.rowIndex y := by omega
    rw [Panel.drawnIndex?_of_le hle, Option.none_or]
    exact ⟨iff_of_true rfl (.inr hle), iff_of_true rfl (.inr (.inl hle)),
      fun _ h => absurd h hlt⟩

/-- The third entry of the built-in sheet is drawn on the third row between the
borders. -/
theorem pointer_finds_drawn_row_iff_builtIn :
    let drawn := ((start .builtIn .dracula true).frame 60 12).1
    drawn.panel.listArea.contains 3 4 = true ∧ drawn.panel.IsInside 4 ∧
      drawn.panel.drawnIndex? 4 = some 2 ∧
      (drawn.handle (.pointer ⟨.move, 3, 4⟩)).1.panel.hovered = drawn.panel.drawnIndex? 4 ∧
      (drawn.handle (.pointer ⟨.press, 3, 4⟩)).1.panel.selected =
        (drawn.panel.drawnIndex? 4).or drawn.panel.selected := by
  intro drawn
  have hcontains : drawn.panel.listArea.contains 3 4 = true := by decide
  have hinside : drawn.panel.IsInside 4 := by
    rw [Panel.IsInside]
    decide
  obtain ⟨hmoved, hpressed, -⟩ :=
    pointer_finds_drawn_row_iff (start .builtIn .dracula true) 60 12 hcontains
  exact ⟨hcontains, hinside, rfl, hmoved.mpr (.inl hinside), hpressed.mpr (.inl hinside)⟩

/-- Nothing is drawn on the upper border of the list but the border, and yet the pointer
finds the first entry there; on the lower border of a list of four rows it finds the
fifth. -/
theorem borders_count_as_rows :
    let drawn := (((start .builtIn .dracula true).run
      [.event ⟨0, 0, 0⟩ (.key (.plain .down))]).frame 60 12).1
    let low := ((start .builtIn .dracula true).frame 60 7).1
    drawn.panel.listArea.contains 3 1 = true ∧ drawn.panel.drawnIndex? 1 = none ∧
      (drawn.handle (.pointer ⟨.move, 3, 1⟩)).1.panel.hovered = some 0 ∧
      drawn.panel.selected = some 1 ∧
      (drawn.handle (.pointer ⟨.press, 3, 1⟩)).1.panel.selected = some 0 ∧
      low.panel.listArea.contains 3 6 = true ∧ low.panel.drawnIndex? 6 = none ∧
      (low.handle (.pointer ⟨.move, 3, 6⟩)).1.panel.hovered = some 4 := by
  intro drawn low
  exact ⟨rfl, rfl, rfl, rfl, rfl, rfl, rfl, rfl⟩

end App
end DevicePanel
