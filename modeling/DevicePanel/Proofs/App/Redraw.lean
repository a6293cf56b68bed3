import DevicePanel.Proofs.App.Reachable
import DevicePanel.Proofs.App.Selection

/-!
# Drawing again

A frame settles the focus and scrolls the list to the selected entry.  Both reach a fixed
point in one pass: a focus that stands on a control of the ring stays there, and a list
that shows the selected entry is not scrolled any further, in whatever room it has, as long
as the selection names an entry.  What else a frame notes, the places of the list and of the
editor, is for the pointer and shows nowhere.

So a second frame of the same size is the same as the first.
-/

namespace DevicePanel

namespace Panel

/-! ## Scrolling -/

/-- Where the list shows the selected entry, it is not scrolled any further. -/
theorem scroll_scroll {offset count rows : Nat} {selected : Option Nat} (room : 0 < rows)
    (named : ∀ i, selected = some i → i < count) :
    scroll (scroll offset count rows selected) count rows selected =
      scroll offset count rows selected := by
  cases selected with
  | none =>
      rw [scroll, scroll]
      omega
  | some i =>
      have hi : i < count := named i rfl
      by_cases hbehind : min offset (count - 1) + rows ≤ i
      · have hfirst : scroll offset count rows (some i) = i + 1 - rows := if_pos hbehind
        have hshown : ¬ min (i + 1 - rows) (count - 1) + rows ≤ i := by omega
        rw [hfirst, scroll, if_neg hshown]
        omega
      · have hfirst : scroll offset count rows (some i) = min (min offset (count - 1)) i :=
          if_neg hbehind
        have hshown : ¬ min (min (min offset (count - 1)) i) (count - 1) + rows ≤ i := by omega
        rw [hfirst, scroll, if_neg hshown]
        omega

variable {p : Panel}

theorem scrolled_scrolled (h : p.NamesRows) (inner : Rect) :
    (p.scrolled inner).scrolled inner = p.scrolled inner := by
  cases hstays : inner.isEmpty || p.entries.isEmpty with
  | true =>
      have hsame : p.scrolled inner = p := by rw [scrolled, hstays, if_pos rfl]
      rw [hsame, hsame]
  | false =>
      have hroom : 0 < inner.height := by
        rw [Bool.or_eq_false_iff, Rect.isEmpty, Bool.or_eq_false_iff] at hstays
        exact Nat.pos_of_ne_zero (by simpa using hstays.1.2)
      have hscrolled : p.scrolled inner = { p with
          offset := scroll p.offset p.entries.length inner.height p.selected } := by
        rw [scrolled, hstays, if_neg Bool.false_ne_true]
      rw [hscrolled, scrolled, hstays, if_neg Bool.false_ne_true]
      dsimp only
      rw [scroll_scroll hroom h.selected]

/-! ## Drawing a panel -/

/-- The panel with the places of its list and its editor. -/
def withPlaces (p : Panel) (list : Rect) (editor : EditorLayout) : Panel :=
  { p with listArea := list, editorLayout := editor }

theorem scrolled_withPlaces (p : Panel) (list : Rect) (editor : EditorLayout) (inner : Rect) :
    (p.withPlaces list editor).scrolled inner = (p.scrolled inner).withPlaces list editor := by
  rw [scrolled, scrolled, withPlaces]
  dsimp only
  split <;> rfl

/-- What the details show does not go by the places noted before. -/
theorem drawDetails_withPlaces (p : Panel) (c : Canvas) (area list : Rect) (t : Theme)
    (connected : Bool) :
    drawDetails c area t connected
        (p.withPlaces list (drawDetails c area t connected p).2) =
      drawDetails c area t connected p := by
  have hsame : ∀ editor, Panel.entry? (p.withPlaces list editor) = p.entry? := fun _ => rfl
  cases hentry : p.entry? with
  | none =>
      have hkept : (drawDetails c area t connected p).2 = p.editorLayout := by
        rw [drawDetails, hentry]
      rw [hkept, drawDetails, drawDetails, hsame, hentry]
      rfl
  | some e =>
      rw [drawDetails, drawDetails, hsame, hentry]
      rfl

/-- Draw a panel that is scrolled already. -/
def drawScrolled (c : Canvas) (area : Rect) (t : Theme) (connected : Bool) (p : Panel) :
    Panel × Screen :=
  let drawn := drawDetails (drawList c (listRect area) t p) (detailsRect area) t connected p
  (p.withPlaces (listRect area) drawn.2, drawn.1)

variable (c : Canvas) (area : Rect) (t : Theme) (connected : Bool)

theorem draw_eq (p : Panel) :
    draw c area t connected p =
      drawScrolled c area t connected (p.scrolled (listRect area).inner) := rfl

theorem drawScrolled_again (p : Panel) :
    drawScrolled c area t connected (drawScrolled c area t connected p).1 =
      drawScrolled c area t connected p := by
  have hdetails := drawDetails_withPlaces p (drawList c (listRect area) t p)
    (detailsRect area) (listRect area) t connected
  have hlist : ∀ editor, drawList c (listRect area) t (p.withPlaces (listRect area) editor) =
      drawList c (listRect area) t p := fun _ => rfl
  rw [drawScrolled, drawScrolled]
  dsimp only
  rw [hlist, hdetails]
  rfl

/-- A panel that has been drawn is drawn the same again, and stays as it is. -/
theorem draw_again (h : p.NamesRows) :
    draw c area t connected (draw c area t connected p).1 = draw c area t connected p := by
  have hplaced : (draw c area t connected p).1.scrolled (listRect area).inner =
      (draw c area t connected p).1 := by
    rw [draw_eq, drawScrolled, scrolled_withPlaces, scrolled_scrolled h]
  rw [draw_eq c area t connected (draw c area t connected p).1, hplaced, draw_eq,
    drawScrolled_again]

end Panel

namespace App

variable {app : App}

/-! ## Settling -/

/-- An anchored panel has nothing to settle. -/
theorem settle_of_anchored (h : app.panel.Anchored) : app.settle = app := by
  obtain ⟨c, hmem, hc⟩ := h.focused
  have hkept : app.panel.focus.current.filter app.panel.controls.contains =
      app.panel.focus.current := by
    rw [hc]
    exact Option.filter_some_pos (List.contains_iff_mem.mpr hmem)
  have hrebuilt : app.panel.rebuildFocus = app.panel := by
    rw [Panel.rebuildFocus, Focus.rebuild, hkept, ← h.ring]
  rw [settle, hrebuilt, hc]
  rfl

/-! ## Drawing the application -/

/-- The screen before the panel is drawn on it. -/
def backdrop (app : App) (width height : Nat) : Canvas :=
  let c := Canvas.blank width height
  app.drawHeader (c.style c.area app.theme.surfaceStyle) (Layout.ofArea c.area).header

/-- The panel as it is drawn on the screen. -/
def drawnPanel (app : App) (width height : Nat) : Panel × Screen :=
  app.panel.draw (app.backdrop width height) (panelArea width height) app.theme app.connected

/-- The application and the screen when the panel has been drawn. -/
def withPanel (app : App) (width height : Nat) (drawn : Panel × Screen) : App × Screen :=
  let l := Layout.ofArea { width, height }
  let app := { app with panel := drawn.1 }
  let c := drawn.2.canvas.paragraph l.status [app.statusLine]
  (app, { drawn.2 with canvas := c.paragraph l.hints [app.hintLine] })

theorem draw_eq (app : App) (width height : Nat) :
    app.draw width height = app.withPanel width height (app.drawnPanel width height) := rfl

theorem draw_again (h : app.panel.NamesRows) (width height : Nat) :
    (app.draw width height).1.draw width height = app.draw width height := by
  have hpanel : drawnPanel { app with panel := (app.drawnPanel width height).1 } width height =
      app.drawnPanel width height := Panel.draw_again _ _ _ _ h
  calc (app.draw width height).1.draw width height
      = app.withPanel width height
          (drawnPanel { app with panel := (app.drawnPanel width height).1 } width height) := rfl
    _ = app.draw width height := by rw [hpanel, draw_eq]

/-- A second frame of the same size is the same as the first. -/
theorem frame_again (h : app.panel.NamesRows) (width height : Nat) :
    (app.frame width height).1.frame width height = app.frame width height := by
  have hsettled : app.settle.panel.NamesRows := by
    rw [settle_eq]
    exact h.congr rfl rfl (fun _ => rfl) rfl
  rw [frame, settle_of_anchored (app.anchored_frame width height), frame]
  exact draw_again hsettled width height

theorem Reachable.namesRows (h : app.Reachable) : app.panel.NamesRows := by
  cases h with
  | run _ palette connected moves => exact namesRows_run _ palette connected moves

/-- In every reachable state and on a screen of any size, a frame leaves alone what has been
committed and entered, the history, the link, whether the application quits, the mark of the
pointer and the selection, which names an entry.  A second frame of the same size leaves the
application as the first has left it, with the same focus and the list scrolled the same,
and shows the same screen. -/
theorem frame_is_stable {app : App} (h : app.Reachable) (width height : Nat) :
    let drawn := app.frame width height
    drawn.1.panel.entries = app.panel.entries ∧ drawn.1.history = app.history ∧
      drawn.1.connected = app.connected ∧ drawn.1.quitting = app.quitting ∧
      drawn.1.panel.hovered = app.panel.hovered ∧
      drawn.1.panel.selected = app.panel.selected ∧
      (∀ i, app.panel.selected = some i → i < app.panel.entries.length) ∧
      drawn.1.frame width height = drawn := by
  intro drawn
  have hhovered : drawn.1.panel.hovered = app.panel.hovered := by
    rw [panel_frame, Panel.scrolled_eq, settle_eq]
  exact ⟨app.entries_frame width height, rfl, app.connected_frame width height, rfl, hhovered,
    app.selected_frame width height, h.namesRows.selected, frame_again h.namesRows width height⟩

/-- On a screen of five rows the list has room for three of the five entries of the built-in
sheet.  With the fourth one selected it is scrolled by one, and a second frame scrolls it no
further. -/
theorem frame_is_stable_builtIn :
    let app := (start .builtIn .dracula true).run
      [.event ⟨0, 0, 0⟩ (.key (.plain .down)), .event ⟨0, 0, 1⟩ (.key (.plain .down)),
        .event ⟨0, 0, 2⟩ (.key (.plain .down))]
    let drawn := app.frame 40 5
    app.Reachable ∧ app.panel.offset = 0 ∧ drawn.1.panel.offset = 1 ∧
      drawn.1.panel.selected = some 3 ∧ drawn.1.panel.entries = app.panel.entries ∧
      drawn.1.frame 40 5 = drawn := by
  intro app drawn
  have hreachable : app.Reachable := .run .builtIn .dracula true _
  obtain ⟨hentries, -, -, -, -, hselected, -, hagain⟩ := frame_is_stable hreachable 40 5
  refine ⟨hreachable, by decide, by decide +kernel, ?_, hentries, hagain⟩
  rw [hselected]
  decide

end App
end DevicePanel
