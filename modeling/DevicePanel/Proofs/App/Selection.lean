import DevicePanel.Proofs.App.EffectLog
import DevicePanel.Proofs.App.Frame
import DevicePanel.Proofs.Panel.Selection

/-!
# The selection during a run

Events turn the panel as its input does, effects and frames leave its rows alone.  So in
every run of every sheet the selection and the mark of the pointer name parameters of the
sheet, and a list that is drawn never has to correct them.  Up and Down move the selection
by one and stop at both ends, whatever has the focus.

Whichever event selects another entry gives the focus to its field or switch.  The converse
is false: at both ends Up and Down select nothing new, and the focus goes there too.
-/

namespace DevicePanel
namespace App

/-- After the event, and still after a frame that follows it, the entry with the index is
selected and its field or switch has the focus. -/
def Chooses (app : App) (event : Event) (index : Nat) : Prop :=
  ∀ now width height, (app.step now event).panel.IsChosen index ∧
    ((app.step now event).frame width height).1.panel.IsChosen index

variable {app : App}

/-! ## Moves and rows -/

theorem turn_handle (app : App) (event : Event) :
    app.panel.Turn (app.handle event).1.panel := by
  cases event with
  | key e =>
      rw [handle]
      split
      · rw [key]
        split
        · exact app.panel.turn_refl
        · exact app.panel.turn_key app.connected e
      · exact app.panel.turn_refl
  | pointer e => exact app.panel.turn_pointer app.connected e
  | paste pasted => exact app.panel.turn_paste app.connected pasted
  | resize | focusGained | focusLost => exact app.panel.turn_refl

theorem namesRows_step (h : app.panel.NamesRows) (now : TimeOfDay) (event : Event) :
    (app.step now event).panel.NamesRows := by
  have hhandle := (app.turn_handle event).namesRows h
  rw [step_eq, panel_apply_eq]
  exact hhandle.congr (List.length_map _) rfl (fun _ => rfl) rfl

theorem namesRows_frame (h : app.panel.NamesRows) (width height : Nat) :
    (app.frame width height).1.panel.NamesRows := by
  have hsettle : app.settle.panel.NamesRows := by
    rw [settle_eq]
    exact h.congr rfl rfl (fun _ => rfl) rfl
  rw [panel_frame]
  exact (hsettle.scrolled _).congr rfl rfl (fun _ => rfl) rfl

theorem namesRows_move (app : App) (m : Move) (h : app.panel.NamesRows) :
    (app.move m).panel.NamesRows := by
  cases m with
  | event now e => exact namesRows_step h now e
  | frame width height => exact namesRows_frame h width height

theorem namesRows_run (sheet : Sheet) (palette : Palette) (connected : Bool)
    (moves : List Move) :
    ((start sheet palette connected).run moves).panel.NamesRows :=
  run_induction namesRows_move
    ((Panel.namesRows_ofParameters sheet.parameters).congr rfl rfl (fun _ => rfl) rfl) moves

theorem length_step (app : App) (now : TimeOfDay) (event : Event) :
    (app.step now event).panel.entries.length = app.panel.entries.length := by
  have hkeys := congrArg List.length (keys_handle app event)
  rw [List.length_map, List.length_map] at hkeys
  rw [step_eq, panel_apply_eq, List.length_map, hkeys]

/-- A panel has one entry for each parameter of its sheet. -/
theorem length_run (sheet : Sheet) (palette : Palette) (connected : Bool)
    (moves : List Move) :
    ((start sheet palette connected).run moves).panel.entries.length =
      sheet.parameters.length := by
  refine run_induction (P := fun app => app.panel.entries.length = sheet.parameters.length)
    ?_ (List.length_map _) moves
  intro app m h
  cases m with
  | event now e => rw [move, length_step, h]
  | frame width height => rw [move, entries_frame, h]

/-! ## Events that choose an entry -/

theorem isChosen_frame {i : Nat} (h : app.panel.IsChosen i) (rows : app.panel.NamesRows)
    (width height : Nat) : (app.frame width height).1.panel.IsChosen i := by
  have hfound : app.panel.entry?.isSome = true := by
    rw [Panel.entry?_of_selected h.1, List.getElem?_eq_getElem (rows.selected i h.1)]
    rfl
  constructor
  · rw [selected_frame]
    exact h.1
  · rw [focus_frame]
    exact current_settle_of_mem h.2 (Panel.input_mem_controls h.1 hfound)

theorem chooses_of_handle (rows : app.panel.NamesRows) {event : Event} {i : Nat}
    (h : (app.handle event).1.panel.IsChosen i) : app.Chooses event i := by
  intro now width height
  have hstep : (app.step now event).panel.IsChosen i := by
    rw [step_eq, panel_apply_eq]
    exact h
  exact ⟨hstep, isChosen_frame hstep (namesRows_step rows now event) width height⟩

theorem command?_of_isMove {e : KeyEvent} (h : e.IsMove) : command? e = none := by
  rw [command?]
  split
  · rfl
  · rcases h with h | h | h | h <;> rw [h]

/-- A press of a key that moves the selection goes to the panel, whatever is held down with
it. -/
theorem handle_of_isMove {e : KeyEvent} (press : e.action = .press) (h : e.IsMove) :
    (app.handle (.key e)).1.panel = (app.panel.key app.connected e).1 := by
  rw [handle_of_not_command press (command?_of_isMove h)]
  rfl

theorem chooses_of_up (rows : app.panel.NamesRows) {i : Nat}
    (selected : app.panel.selected = some i) {e : KeyEvent} (press : e.action = .press)
    (up : e.key = .up) : app.Chooses (.key e) (i - 1) := by
  have hlt := rows.selected i selected
  have hfirst : min (i - 1) (app.panel.entries.length - 1) = i - 1 := by omega
  have hchosen := Panel.isChosen_choose (rows.ne_nil selected) (i - 1)
  apply chooses_of_handle rows
  rw [handle_of_isMove press (.inr (.inr (.inl up))), Panel.key, up, selected, ← hfirst]
  exact hchosen

theorem chooses_of_down (rows : app.panel.NamesRows) {i : Nat}
    (selected : app.panel.selected = some i) {e : KeyEvent} (press : e.action = .press)
    (down : e.key = .down) :
    app.Chooses (.key e) (min (i + 1) (app.panel.entries.length - 1)) := by
  apply chooses_of_handle rows
  rw [handle_of_isMove press (.inr (.inr (.inr down))), Panel.key, down, selected]
  exact Panel.isChosen_choose (rows.ne_nil selected) (i + 1)

/-- A press of the pointer that finds an entry in the list. -/
theorem chooses_of_listPress (rows : app.panel.NamesRows) {e : PointerEvent}
    (press : e.action = .press) (inside : app.panel.listArea.contains e.x e.y = true)
    (found : app.panel.rowIndex e.y < app.panel.entries.length) :
    app.Chooses (.pointer e) (app.panel.rowIndex e.y) := by
  have hrow : min (app.panel.rowIndex e.y) (app.panel.entries.length - 1) =
      app.panel.rowIndex e.y := by omega
  have hchosen := Panel.isChosen_choose
    (List.ne_nil_of_length_pos (Nat.zero_lt_of_lt found)) (app.panel.rowIndex e.y)
  have hhandle : (app.handle (.pointer e)).1.panel =
      app.panel.choose (app.panel.rowIndex e.y) := by
    rw [handle, Panel.pointer, press, inside, Panel.listPress, if_pos found]
    rfl
  apply chooses_of_handle rows
  rw [hhandle]
  rw [hrow] at hchosen
  exact hchosen

/-- Whichever event selects another entry chooses it. -/
theorem chooses_of_changed (rows : app.panel.NamesRows) (nonempty : app.panel.entries ≠ [])
    {now : TimeOfDay} {event : Event} {j : Nat}
    (selected : (app.step now event).panel.selected = some j)
    (changed : app.panel.selected ≠ some j) : app.Chooses event j := by
  have hhandle : (app.handle event).1.panel.selected = some j := by
    rw [step_eq, panel_apply_eq] at selected
    exact selected
  exact chooses_of_handle rows ((app.turn_handle event).isChosen nonempty hhandle changed)

/-- Without entries no event asks for a commit. -/
theorem commit_not_mem_of_nil (h : app.panel.entries = []) (event : Event) (c : Commit) :
    .commit c ∉ (app.handle event).2 := by
  intro hcommit
  obtain ⟨e, -, -, -, hentry, -⟩ := entry_of_commit hcommit
  rw [Panel.entry?_of_nil h] at hentry
  cases hentry

/-- In every run of every sheet the mark of the pointer names a parameter or nothing, and a
list that is drawn has nothing to correct.  Without parameters nothing is ever selected and
nothing is to be committed.  Otherwise a parameter is always selected, the first one at the
start; Up and Down choose its neighbours as far as there are any, and a press in the list
chooses the entry that it finds; and whatever event selects another entry chooses it. -/
theorem selection_names_rows (sheet : Sheet) (palette : Palette) (connected : Bool)
    (moves : List Move) :
    let first := start sheet palette connected
    let app := first.run moves
    let n := sheet.parameters.length
    app.panel.entries.length = n ∧
      (∀ j, app.panel.hovered = some j → j < n) ∧
      (∀ inner, app.panel.corrected inner = app.panel) ∧
      (n = 0 → app.panel.selected = none ∧
        ∀ event c, Effect.commit c ∉ (app.handle event).2) ∧
      (0 < n → first.panel.selected = some 0 ∧ ∃ i < n, app.panel.selected = some i ∧
        (∀ e : KeyEvent, e.action = .press →
          (e.key = .up → app.Chooses (.key e) (i - 1)) ∧
          (e.key = .down → app.Chooses (.key e) (min (i + 1) (n - 1)))) ∧
        (∀ e : PointerEvent, e.action = .press →
          app.panel.listArea.contains e.x e.y = true → app.panel.rowIndex e.y < n →
            app.Chooses (.pointer e) (app.panel.rowIndex e.y)) ∧
        ∀ now event j, (app.step now event).panel.selected = some j → j ≠ i →
          app.Chooses event j) := by
  intro first app n
  have hlength : app.panel.entries.length = n := length_run sheet palette connected moves
  have hrows : app.panel.NamesRows := namesRows_run sheet palette connected moves
  refine ⟨hlength, ?_, hrows.corrected_eq, fun hn => ?_, fun hn => ?_⟩
  · rw [← hlength]
    exact hrows.hovered
  · have hnil : app.panel.entries = [] := List.length_eq_zero_iff.mp (hlength.trans hn)
    exact ⟨hrows.selected_of_nil hnil, commit_not_mem_of_nil hnil⟩
  · have hnonempty : app.panel.entries ≠ [] := List.ne_nil_of_length_pos (hlength ▸ hn)
    obtain ⟨i, hi⟩ := Option.isSome_iff_exists.mp (hrows.isSome hnonempty)
    have hfirst : first.panel.selected = some 0 := by
      have hparameters : sheet.parameters.isEmpty = false := by
        rw [List.isEmpty_eq_false_iff]
        exact List.ne_nil_of_length_pos hn
      change (if sheet.parameters.isEmpty then none else some 0) = some 0
      rw [hparameters, if_neg Bool.false_ne_true]
    refine ⟨hfirst, i, hlength ▸ hrows.selected i hi, hi, fun e press => ⟨?_, ?_⟩, ?_, ?_⟩
    · exact chooses_of_up hrows hi press
    · rw [← hlength]
      exact chooses_of_down hrows hi press
    · rw [← hlength]
      exact fun e => chooses_of_listPress hrows
    · intro now event j hj hne
      refine chooses_of_changed hrows hnonempty hj ?_
      rw [hi]
      exact fun heq => hne (Option.some.inj heq).symm

/-- On the built-in sheet the second parameter is selected and the pointer stands on the
third one.  Up, with Control held down, chooses the first, Down and a press of the pointer
choose the third.  On a sheet without parameters the same moves select nothing. -/
theorem selection_names_rows_builtIn :
    let moves : List Move := [.event ⟨0, 0, 0⟩ (.key (.plain .down)), .frame 60 12,
      .event ⟨0, 0, 1⟩ (.pointer ⟨.move, 3, 4⟩)]
    let app := (start .builtIn .dracula true).run moves
    let bare := (start { Sheet.builtIn with parameters := [] } .dracula true).run moves
    0 < Sheet.builtIn.parameters.length ∧ app.panel.selected = some 1 ∧
      app.panel.hovered = some 2 ∧ app.Chooses (.key ⟨.up, { control := true }, .press⟩) 0 ∧
      app.Chooses (.key (.plain .down)) 2 ∧ app.panel.listArea.contains 3 4 = true ∧
      app.Chooses (.pointer ⟨.press, 3, 4⟩) 2 ∧ bare.panel.selected = none ∧
      ∀ event c, Effect.commit c ∉ (bare.handle event).2 := by
  intro moves app bare
  have hselected : app.panel.selected = some 1 := by decide
  have hinside : app.panel.listArea.contains 3 4 = true := by decide
  obtain ⟨-, -, -, -, hall⟩ := selection_names_rows .builtIn .dracula true moves
  obtain ⟨-, -, -, hnone, -⟩ :=
    selection_names_rows { Sheet.builtIn with parameters := [] } .dracula true moves
  obtain ⟨-, i, -, hi, hkeys, hpress, -⟩ := hall (by decide)
  have h1 : i = 1 := Option.some.inj (hi.symm.trans hselected)
  subst h1
  exact ⟨by decide, hselected, by decide, (hkeys _ rfl).1 rfl, (hkeys _ rfl).2 rfl, hinside,
    hpress ⟨.press, 3, 4⟩ rfl hinside (by decide), (hnone rfl).1, (hnone rfl).2⟩

end App
end DevicePanel
