import DevicePanel.Proofs.App.Run
import DevicePanel.Proofs.Editor.Layout
import DevicePanel.Proofs.Panel.Anchored

/-!
# What a frame leaves

A frame draws the panel into a fixed part of the screen.  It scrolls the list and notes
where the list and the editor of the selected entry stand; the entries, the selection and
the link stay as they are.  Afterwards one control has the focus, and it is one of those
that the panel has.
-/

namespace DevicePanel

namespace Panel

/-- Where the editor of an entry stands in the area of a panel. -/
def editorArea (area : Rect) (props : EditorProps) : Rect :=
  editorRect (contentRect (detailsRect area)) props.height

theorem right_listRect_le (area : Rect) (props : EditorProps) :
    (listRect area).right ≤ (editorArea area props).x :=
  Nat.le_add_right _ 2

theorem editorLayout_drawDetails {p : Panel} {e : Entry} (h : p.entry? = some e) (c : Canvas)
    (area : Rect) (t : Theme) (connected : Bool) :
    (drawDetails c area t connected p).2 =
      Editor.layout e.draft (e.props connected)
        (editorRect (contentRect area) (e.props connected).height) := by
  rw [drawDetails, h]

/-- Scrolling changes nothing but the first entry that is shown. -/
theorem scrolled_eq (p : Panel) (inner : Rect) :
    p.scrolled inner = { p with offset := (p.scrolled inner).offset } := by
  rw [scrolled]
  split <;> rfl

end Panel

namespace App

/-- The part of a screen that the panel is drawn into. -/
def panelArea (width height : Nat) : Rect := (Layout.ofArea { width, height }).panel

/-- The application as a frame of the given size leaves it. -/
structure Drawn (app : App) (width height : Nat) : Prop where
  /-- One of the panel's controls has the focus. -/
  focused : ∃ c ∈ app.panel.controls, app.panel.focus.current = some c
  /-- The ring of the focus is that of the panel's controls. -/
  ring : app.panel.focus.ring = app.panel.controls
  listArea : app.panel.listArea = Panel.listRect (panelArea width height)
  editorLayout : ∀ e, app.panel.entry? = some e →
    app.panel.editorLayout = Editor.layout e.draft (e.props app.connected)
      (Panel.editorArea (panelArea width height) (e.props app.connected))

/-- What is drawn as the field or switch of the selected entry is no part of the list. -/
theorem Drawn.apart {app : App} {width height : Nat} (h : app.Drawn width height) {e : Entry}
    (he : app.panel.entry? = some e) {x y : Nat}
    (hfield : app.panel.editorLayout.field.contains x y = true) :
    app.panel.listArea.contains x y = false := by
  have hlist := Panel.right_listRect_le (panelArea width height) (e.props app.connected)
  have hx := EditorLayout.le_x_field e.draft.isSwitch (e.props app.connected).compact
    (Panel.editorArea (panelArea width height) (e.props app.connected))
  -- The list ends where the editor begins, or before it.
  rw [h.editorLayout e he, Rect.contains_eq_true_iff] at hfield
  rw [h.listArea, Bool.eq_false_iff, Ne, Rect.contains_eq_true_iff]
  rintro ⟨-, hright, -⟩
  exact absurd hright (Nat.not_lt.mpr (Nat.le_trans hlist (Nat.le_trans hx hfield.1)))

/-! ## The focus before a frame is drawn -/

theorem settle_eq (app : App) :
    app.settle = { app with panel := { app.panel with focus := app.settle.panel.focus } } := by
  rw [settle]
  dsimp only
  split <;> rfl

theorem ring_settle (app : App) : app.settle.panel.focus.ring = app.panel.controls := by
  rw [settle]
  dsimp only
  split
  · rw [Panel.moveFocus, Focus.moveTo]
    split <;> rfl
  · rfl

theorem current_settle_of_mem {app : App} {c : Control}
    (h : app.panel.focus.current = some c) (hmem : c ∈ app.panel.controls) :
    app.settle.panel.focus.current = some c := by
  have hrebuilt : app.panel.rebuildFocus.focus.current = some c := by
    rw [Panel.rebuildFocus, Focus.rebuild, h]
    exact Option.filter_some_pos (by simpa using hmem)
  rw [settle]
  dsimp only
  rw [hrebuilt]
  exact hrebuilt

theorem focused_settle (app : App) :
    ∃ c ∈ app.panel.controls, app.settle.panel.focus.current = some c := by
  cases h : app.panel.rebuildFocus.focus.current with
  | none =>
      refine ⟨.list, app.panel.list_mem_controls, ?_⟩
      have hring : app.panel.rebuildFocus.focus.ring.contains .list = true :=
        List.contains_iff_mem.mpr app.panel.list_mem_controls
      rw [settle]
      dsimp only
      rw [h, Option.isNone_none, if_pos rfl, Panel.moveFocus, Focus.moveTo, if_pos hring]
  | some c =>
      rw [Panel.rebuildFocus, Focus.rebuild, Option.filter_eq_some_iff] at h
      have hmem : c ∈ app.panel.controls := by simpa using h.2
      exact ⟨c, hmem, current_settle_of_mem h.1 hmem⟩

/-! ## After a frame -/

theorem panel_frame (app : App) (width height : Nat) :
    (app.frame width height).1.panel =
      { app.settle.panel.scrolled (Panel.listRect (panelArea width height)).inner with
        listArea := Panel.listRect (panelArea width height)
        editorLayout := (app.frame width height).1.panel.editorLayout } := rfl

@[simp] theorem connected_frame (app : App) (width height : Nat) :
    (app.frame width height).1.connected = app.connected := by
  rw [frame, settle_eq]
  rfl

@[simp] theorem selected_frame (app : App) (width height : Nat) :
    (app.frame width height).1.panel.selected = app.panel.selected := by
  rw [panel_frame, Panel.scrolled_eq, settle_eq]

@[simp] theorem focus_frame (app : App) (width height : Nat) :
    (app.frame width height).1.panel.focus = app.settle.panel.focus := by
  rw [panel_frame, Panel.scrolled_eq]

@[simp] theorem entry?_frame (app : App) (width height : Nat) :
    (app.frame width height).1.panel.entry? = app.panel.entry? := by
  rw [Panel.entry?, Panel.entry?, selected_frame, entries_frame]

@[simp] theorem controls_frame (app : App) (width height : Nat) :
    (app.frame width height).1.panel.controls = app.panel.controls := by
  rw [Panel.controls, Panel.controls, selected_frame, entry?_frame]

theorem editorLayout_frame {app : App} {e : Entry} (h : app.panel.entry? = some e)
    (width height : Nat) :
    (app.frame width height).1.panel.editorLayout =
      Editor.layout e.draft (e.props app.connected)
        (Panel.editorArea (panelArea width height) (e.props app.connected)) := by
  have hscrolled : Panel.entry? (app.settle.panel.scrolled
      (Panel.listRect (panelArea width height)).inner) = some e := by
    rw [Panel.scrolled_eq, settle_eq]
    exact h
  have hsame : app.settle.connected = app.connected := by rw [settle_eq]
  rw [← hsame]
  exact Panel.editorLayout_drawDetails hscrolled _ _ _ _

theorem drawn_frame (app : App) (width height : Nat) :
    (app.frame width height).1.Drawn width height where
  focused := by
    rw [controls_frame, focus_frame]
    exact app.focused_settle
  ring := by
    rw [controls_frame, focus_frame]
    exact app.ring_settle
  listArea := rfl
  editorLayout := by
    intro e he
    rw [entry?_frame] at he
    rw [connected_frame]
    exact editorLayout_frame he width height

/-- A frame anchors every panel. -/
theorem anchored_frame (app : App) (width height : Nat) :
    (app.frame width height).1.panel.Anchored :=
  ⟨(app.drawn_frame width height).ring, (app.drawn_frame width height).focused⟩

end App
end DevicePanel
