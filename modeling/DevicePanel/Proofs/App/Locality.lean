import DevicePanel.Proofs.App.Reachable

/-!
# Events stay with the selected entry

Events that move about the panel change the selection, the focus and the place under the
pointer, and commands change the link or end the run; none of them touches an entry.  A
key or a pasted text touches none either while no control of the editor has the focus.
Everything else reaches the editor of the entry that was selected when the event arrived,
and only that one: its commit is under its own key.

So what has been entered for a parameter is still there when the selection comes back to
it, whatever has happened to the others.
-/

namespace DevicePanel

/-- Keys and pasted texts. -/
def Event.IsTyped : Event → Prop
  | .key _ | .paste _ => True
  | .pointer _ | .resize | .focusGained | .focusLost => False

/-- The keys that the application takes itself. -/
def KeyEvent.IsCommand (e : KeyEvent) : Prop :=
  e.modifiers.control = true ∧ (e.key = .char 'l' ∨ e.key = .char 'c' ∨ e.key = .char 'q')

namespace Panel

/-- The event moves about the panel, or it is a command: moves of the focus and of the
selection, presses in the list, and the pointer on its way. -/
def Navigates (p : Panel) : Event → Prop
  | .key e => e.IsMove ∨ e.IsCommand
  | .pointer e =>
      e.action = .move ∨ e.action = .press ∧ p.listArea.contains e.x e.y = true
  | .paste _ | .resize | .focusGained | .focusLost => False

end Panel

namespace App

theorem entries_step_of_panel {app : App} {event : Event} {result : Panel × Option Commit}
    (hhandle : app.handle event = app.ofPanel result) (h : app.panel.Untouched result)
    (now : TimeOfDay) : (app.step now event).panel.entries = app.panel.entries := by
  apply entries_step_of_untouched
  · rw [hhandle]
    exact h.1
  · intro effect hmem
    rw [hhandle, ofPanel, h.2] at hmem
    cases hmem

/-- A key changes no entry if it is a command or the panel makes nothing of it. -/
theorem entries_step_key {app : App} {e : KeyEvent}
    (h : command? e = none → app.panel.Untouched (app.panel.key app.connected e))
    (now : TimeOfDay) : (app.step now (.key e)).panel.entries = app.panel.entries := by
  by_cases hpress : e.action = .press
  · cases hcommand : command? e with
    | none =>
        exact entries_step_of_panel (handle_of_not_command hpress hcommand app) (h hcommand)
          now
    | some effect =>
        have hhandle : app.handle (.key e) = (app, [effect]) := by
          rw [handle_of_press hpress, key, hcommand]
        apply entries_step_of_untouched
        · rw [hhandle]
        · intro effect' hmem
          rw [hhandle, List.mem_singleton] at hmem
          rw [hmem]
          exact eq_of_command? hcommand
  · have hhandle : app.handle (.key e) = app.ofPanel (app.panel, none) := by
      rw [handle, if_neg (by simpa using hpress)]
      rfl
    exact entries_step_of_panel hhandle ⟨rfl, rfl⟩ now

theorem command?_ne_none {e : KeyEvent} (h : e.IsCommand) : command? e ≠ none := by
  obtain ⟨hcontrol, hkey⟩ := h
  rw [command?, hcontrol]
  rcases hkey with hkey | hkey | hkey <;> rw [hkey] <;> exact Option.some_ne_none _

theorem entries_step_of_navigates {app : App} {event : Event}
    (h : app.panel.Navigates event) (now : TimeOfDay) :
    (app.step now event).panel.entries = app.panel.entries := by
  cases event with
  | key e =>
      apply entries_step_key
      intro hnone
      rcases h with hmove | hcommand
      · exact Panel.untouched_of_move hmove
      · exact absurd hnone (command?_ne_none hcommand)
  | pointer e => exact entries_step_of_panel rfl (Panel.untouched_of_pointer h) now
  | paste _ | resize | focusGained | focusLost => exact absurd h not_false

theorem entries_step_of_unfocused {app : App} {event : Event}
    (unfocused : app.panel.editorFocus.any = false) (h : event.IsTyped) (now : TimeOfDay) :
    (app.step now event).panel.entries = app.panel.entries := by
  cases event with
  | key e => exact entries_step_key (fun _ => Panel.untouched_of_unfocused unfocused e) now
  | paste pasted =>
      have hhandle : app.handle (.paste pasted) =
          app.ofPanel (app.panel.paste app.connected pasted, none) := rfl
      rw [Panel.paste_of_unfocused unfocused] at hhandle
      exact entries_step_of_panel hhandle ⟨rfl, rfl⟩ now
  | pointer _ | resize | focusGained | focusLost => exact absurd h not_false

/-- Where the keys are distinct, an event leaves every entry alone that was not selected
when it arrived. -/
theorem getElem?_step_of_ne {app : App} (hkeys : (app.panel.entries.map Entry.key).Nodup)
    {j : Nat} (h : app.panel.selected ≠ some j) (now : TimeOfDay) (event : Event) :
    (app.step now event).panel.entries[j]? = app.panel.entries[j]? := by
  rcases entries_step hkeys now event with hsame | ⟨i, _, _, _, _, hselected, -, hset⟩
  · rw [hsame]
  · have hne : i ≠ j := by
      rintro rfl
      exact h hselected
    rw [hset, List.getElem?_set_ne hne]

/-- In every reachable state, an event with its effects and the frame behind it leave alone
every entry but the one that was selected.  They leave that one alone too if the event
moves about the panel or is a command, or if it is a key or a pasted text and no control
of the editor has the focus. -/
theorem events_stay_with_selected {app : App} (h : app.Reachable) (now : TimeOfDay)
    (event : Event) (width height : Nat) :
    let after := ((app.step now event).frame width height).1
    (∀ j, app.panel.selected ≠ some j →
        after.panel.entries[j]? = app.panel.entries[j]?) ∧
      (app.panel.Navigates event → after.panel.entries = app.panel.entries) ∧
      (app.panel.editorFocus.any = false → event.IsTyped →
        after.panel.entries = app.panel.entries) := by
  intro after
  have hframe : after.panel.entries = (app.step now event).panel.entries :=
    (app.step now event).entries_frame width height
  rw [hframe]
  refine ⟨fun j hj => ?_, fun hnavigates => ?_, fun hunfocused htyped => ?_⟩
  · exact getElem?_step_of_ne h.keys_nodup hj now event
  · exact entries_step_of_navigates hnavigates now
  · exact entries_step_of_unfocused hunfocused htyped now

/-- A text is entered for the first parameter of the built-in sheet, the third one is
selected, and Enter is pressed there: the first one still has the text. -/
theorem events_stay_with_selected_builtIn :
    let app := (start .builtIn .dracula true).run
      [.event ⟨0, 0, 0⟩ (.key (.plain .up)), .event ⟨0, 0, 1⟩ (.paste "lab"),
        .event ⟨0, 0, 2⟩ (.key (.plain .down)), .event ⟨0, 0, 3⟩ (.key (.plain .down))]
    let after := ((app.step ⟨0, 0, 4⟩ (.key (.plain .enter))).frame 60 12).1
    app.Reachable ∧ app.panel.selected ≠ some 0 ∧
      after.panel.entries[0]? = app.panel.entries[0]? ∧
      (after.panel.entries[0]?.bind (·.draft.text?)).map (·.buffer.text) = some "lab" := by
  intro app after
  have hreachable : app.Reachable := .run .builtIn .dracula true _
  have hselected : app.panel.selected ≠ some 0 := by decide
  obtain ⟨hothers, -⟩ :=
    events_stay_with_selected hreachable ⟨0, 0, 4⟩ (.key (.plain .enter)) 60 12
  have hkept := hothers 0 hselected
  subst after
  refine ⟨hreachable, hselected, hkept, ?_⟩
  rw [hkept]
  rfl

end App
end DevicePanel
