import DevicePanel.Panel.Input
import DevicePanel.Proofs.Editor.Event
import DevicePanel.Proofs.Panel.Keys

/-!
# Events of a panel

Keys, pasted texts and the pointer leave the entries of a panel alone, or they reach the
editor of the selected entry; selection, scrolling and focus have no part in the entries.
The editor may be reached with any focus and with a layout that was drawn long ago, so
nothing is said of them here.
-/

namespace DevicePanel

/-- The keys that move the focus and the selection. -/
def KeyEvent.IsMove (e : KeyEvent) : Prop :=
  e.key = .tab ∨ e.key = .backTab ∨ e.key = .up ∨ e.key = .down

namespace Panel

/-- What input to a panel does to its entries, and the commit that it asks for. -/
inductive Outcome (p : Panel) (connected : Bool) (result : Panel × Option Commit) : Prop
  /-- No entry is touched. -/
  | untouched (entries : result.1.entries = p.entries) (commit : result.2 = none)
  /-- The editor of the selected entry receives an event. -/
  | received {i : Nat} {entry : Entry} {d : Draft} {value : Option Value}
      {focus : EditorFocus} {layout : EditorLayout} {event : EditorEvent}
      (selected : p.selected = some i) (found : p.entries[i]? = some entry)
      (reaction : entry.draft.receive (entry.props connected) focus layout event = (d, value))
      (entries : result.1.entries = p.entries.set i { entry with draft := d })
      (commit : result.2 = value.map (⟨entry.key, ·⟩))

variable {p q : Panel} {connected : Bool} {result : Panel × Option Commit}

/-! ## Entries under selection and focus -/

theorem entries_select (p : Panel) (index : Option Nat) :
    (p.select index).entries = p.entries := by
  cases index with
  | none => rfl
  | some i =>
      rw [select]
      split <;> rfl

theorem entries_focusInput (p : Panel) : p.focusInput.entries = p.entries := by
  rw [focusInput]
  split <;> rfl

theorem entries_choose (p : Panel) (index : Nat) : (p.choose index).entries = p.entries := by
  rw [choose, entries_focusInput]
  exact p.entries_select (some index)

theorem entries_listPress (p : Panel) (y : Nat) : (p.listPress y).entries = p.entries := by
  rw [listPress]
  split
  · exact p.entries_choose _
  · rfl

/-! ## Outcomes of input -/

/-- Editing hands the selected entry to its editor, if an entry is selected. -/
theorem edit_cases (p : Panel) (f : Entry → Draft × Option Value) :
    p.edit f = (p, none) ∨
      ∃ i entry, p.selected = some i ∧ p.entries[i]? = some entry ∧
        p.edit f = ({ p with entries := p.entries.set i { entry with draft := (f entry).1 } },
          (f entry).2.map (⟨entry.key, ·⟩)) := by
  rw [edit]
  split
  next i entry hselected hentry =>
    rw [entry?_of_selected hselected] at hentry
    exact .inr ⟨i, entry, hselected, hentry, rfl⟩
  · exact .inl rfl

/-- An event that a panel hands to the editor of the selected entry. -/
theorem outcome_edit (focus : EditorFocus) (layout : EditorLayout) (event : EditorEvent)
    {f : Entry → Draft × Option Value} (entries : q.entries = p.entries)
    (selected : q.selected = p.selected)
    (hf : ∀ entry, f entry =
      entry.draft.receive (entry.props connected) focus layout event) :
    Outcome p connected (q.edit f) := by
  rcases q.edit_cases f with hnone | ⟨i, entry, hselected, hfound, hedit⟩
  · rw [hnone]
    exact .untouched entries rfl
  · rw [hedit]
    rw [selected] at hselected
    rw [entries] at hfound
    refine .received hselected hfound (hf entry).symm ?_ rfl
    rw [entries]

theorem outcome_editorKey (p : Panel) (connected : Bool) (e : KeyEvent) :
    Outcome p connected (p.editorKey connected e) := by
  rw [editorKey]
  split
  · exact outcome_edit p.editorFocus {} (.key e) rfl rfl fun _ => rfl
  · exact .untouched rfl rfl

theorem outcome_key (p : Panel) (connected : Bool) (e : KeyEvent) :
    Outcome p connected (p.key connected e) := by
  rw [key]
  split
  · exact .untouched rfl rfl
  · exact .untouched rfl rfl
  · cases p.selected with
    | none => exact .untouched rfl rfl
    | some i => exact .untouched (p.entries_choose _) rfl
  · cases p.selected with
    | none => exact .untouched rfl rfl
    | some i => exact .untouched (p.entries_choose _) rfl
  · split
    · exact .untouched p.entries_focusInput rfl
    · exact p.outcome_editorKey connected e

theorem outcome_editorPress (p : Panel) (connected : Bool) (e : PointerEvent) :
    Outcome p connected (p.editorPress connected e) := by
  rw [editorPress]
  split
  next control i _ hselected =>
    have hmoved : ∀ q : Panel, q = (if p.entry?.isSome then
        p.moveFocus (.editor i control) else p) →
        q.entries = p.entries ∧ q.selected = p.selected := by
      intro q hq
      rw [hq]
      split <;> exact ⟨rfl, rfl⟩
    obtain ⟨hentries, hsame⟩ := hmoved _ rfl
    exact outcome_edit {} _ (.pointer e) hentries hsame fun _ => rfl
  · exact .untouched rfl rfl

theorem outcome_pointer (p : Panel) (connected : Bool) (e : PointerEvent) :
    Outcome p connected (p.pointer connected e) := by
  rw [pointer]
  split
  · split
    · exact .untouched (p.entries_listPress e.y) rfl
    · exact p.outcome_editorPress connected e
  · exact .untouched rfl rfl
  · exact .untouched rfl rfl

theorem outcome_paste (p : Panel) (connected : Bool) (pasted : String) :
    Outcome p connected (p.paste connected pasted, none) := by
  rw [paste]
  split
  · have houtcome : Outcome p connected (p.edit fun entry =>
        (entry.draft.paste (entry.props connected) p.editorFocus pasted, none)) :=
      outcome_edit p.editorFocus {} (.paste pasted) rfl rfl fun _ => rfl
    have hnone : (p.edit fun entry =>
        (entry.draft.paste (entry.props connected) p.editorFocus pasted, none)).2 = none := by
      rw [edit]
      split <;> rfl
    rw [← hnone]
    exact houtcome
  · exact .untouched rfl rfl

/-! ## The focus on the field or switch -/

theorem edit_of_found {i : Nat} {entry : Entry} (selected : p.selected = some i)
    (found : p.entries[i]? = some entry) (f : Entry → Draft × Option Value) :
    p.edit f =
      ({ p with entries := p.entries.set i { entry with draft := (f entry).1 } },
        (f entry).2.map (⟨entry.key, ·⟩)) := by
  have hentry : p.entry? = some entry := (entry?_of_selected selected).trans found
  rw [edit]
  split
  next j e hj he =>
    cases selected.symm.trans hj
    cases hentry.symm.trans he
    rfl
  next hnone => exact absurd hentry (hnone i entry selected)

theorem editorFocus_of_input {i : Nat} (selected : p.selected = some i)
    (focused : p.focus.current = some (.editor i .input)) :
    p.editorFocus = ⟨true, false⟩ := by
  rw [editorFocus, selected]
  simp [Focus.ofEditor, Focus.isOn, focused]

/-- With the focus in the editor, a key that is no move goes there. -/
theorem key_of_isEditing (editing : p.isEditing = true) {e : KeyEvent} (h : ¬ e.IsMove)
    (connected : Bool) :
    p.key connected e =
      p.edit fun entry => entry.draft.key (entry.props connected) p.editorFocus e := by
  have hfocused : p.editorFocus.any = true := (Bool.and_eq_true_iff.mp editing).2
  have hlist : p.focus.isOn .list = false := by
    rw [Focus.isOn, beq_eq_false_iff_ne]
    intro hcurrent
    rw [editorFocus] at hfocused
    split at hfocused
    · rw [Focus.ofEditor, Focus.isOn, Focus.isOn, hcurrent] at hfocused
      cases hfocused
    · cases hfocused
  rw [key]
  split
  next hkey => exact absurd (.inl hkey) h
  next hkey => exact absurd (.inr (.inl hkey)) h
  next hkey => exact absurd (.inr (.inr (.inl hkey))) h
  next hkey => exact absurd (.inr (.inr (.inr hkey))) h
  · rw [hlist, Bool.false_and, if_neg Bool.false_ne_true, editorKey, editing, if_pos rfl]

theorem key_of_input {i : Nat} {entry : Entry} (selected : p.selected = some i)
    (found : p.entries[i]? = some entry)
    (focused : p.focus.current = some (.editor i .input)) {e : KeyEvent} (h : ¬ e.IsMove)
    (connected : Bool) :
    p.key connected e =
      p.edit fun entry => entry.draft.key (entry.props connected) ⟨true, false⟩ e := by
  have hfocus := editorFocus_of_input selected focused
  have hediting : p.isEditing = true := by
    rw [isEditing, entry?_of_selected selected, found, hfocus]
    rfl
  rw [key_of_isEditing hediting h, hfocus]

/-! ## Input that touches no entry -/

/-- The result of input touches no entry and asks for no commit. -/
def Untouched (p : Panel) (result : Panel × Option Commit) : Prop :=
  result.1.entries = p.entries ∧ result.2 = none

theorem untouched_of_move {e : KeyEvent} (h : e.IsMove) :
    p.Untouched (p.key connected e) := by
  rw [key]
  rcases h with h | h | h | h
  · rw [h]
    exact ⟨rfl, rfl⟩
  · rw [h]
    exact ⟨rfl, rfl⟩
  · rw [h]
    cases p.selected with
    | none => exact ⟨rfl, rfl⟩
    | some i => exact ⟨p.entries_choose (i - 1), rfl⟩
  · rw [h]
    cases p.selected with
    | none => exact ⟨rfl, rfl⟩
    | some i => exact ⟨p.entries_choose (i + 1), rfl⟩

/-- Keys go past an editor that does not have the focus. -/
theorem untouched_of_not_isEditing (h : p.isEditing = false) (e : KeyEvent) :
    p.Untouched (p.key connected e) := by
  by_cases hmove : e.IsMove
  · exact untouched_of_move hmove
  · have heditor : p.editorKey connected e = (p, none) := by
      rw [editorKey, h]
      rfl
    rw [key]
    split
    · exact ⟨rfl, rfl⟩
    · exact ⟨rfl, rfl⟩
    next hkey => exact absurd (.inr (.inr (.inl hkey))) hmove
    next hkey => exact absurd (.inr (.inr (.inr hkey))) hmove
    · split
      · exact ⟨p.entries_focusInput, rfl⟩
      · rw [heditor]
        exact ⟨rfl, rfl⟩

theorem untouched_of_unfocused (h : p.editorFocus.any = false) (e : KeyEvent) :
    p.Untouched (p.key connected e) := by
  apply untouched_of_not_isEditing
  rw [isEditing, h, Bool.and_false]

theorem paste_of_unfocused (h : p.editorFocus.any = false) (pasted : String) :
    p.paste connected pasted = p := by
  have hinput : p.editorFocus.input = false := by
    rw [EditorFocus.any, Bool.or_eq_false_iff] at h
    exact h.1
  rw [paste, hinput]
  rfl

/-- The pointer on its way and presses in the list touch no entry. -/
theorem untouched_of_pointer {e : PointerEvent}
    (h : e.action = .move ∨ e.action = .press ∧ p.listArea.contains e.x e.y = true) :
    p.Untouched (p.pointer connected e) := by
  rw [pointer]
  rcases h with hmove | ⟨hpress, hlist⟩
  · rw [hmove]
    exact ⟨rfl, rfl⟩
  · rw [hpress, hlist]
    exact ⟨p.entries_listPress e.y, rfl⟩

/-! ## What outcomes have in common -/

/-- Input keeps what an entry has apart from its draft, and whether that is a switch. -/
theorem Outcome.map_eq {α : Type} {g : Entry → α}
    (hg : ∀ e d, d.isSwitch = e.draft.isSwitch → g { e with draft := d } = g e)
    (h : Outcome p connected result) : result.1.entries.map g = p.entries.map g := by
  cases h with
  | untouched entries _ => rw [entries]
  | @received i entry d value focus layout event _ found reaction entries _ =>
      have hswitch : d.isSwitch = entry.draft.isSwitch := by
        rw [← Draft.isSwitch_receive entry.draft event, reaction]
      rw [entries]
      exact map_set_of_eq g found (hg entry d hswitch)

/-- A commit is under the key of the selected entry. -/
theorem Outcome.entry_of_commit {c : Commit} (h : Outcome p connected result)
    (hc : result.2 = some c) :
    ∃ entry focus layout event, p.entry? = some entry ∧ c.key = entry.key ∧
      (entry.draft.receive (entry.props connected) focus layout event).2 = some c.value := by
  cases h with
  | untouched _ commit => cases commit.symm.trans hc
  | @received i entry d value focus layout event selected found reaction _ commit =>
      obtain ⟨v, rfl, rfl⟩ := Option.map_eq_some_iff.mp (commit.symm.trans hc)
      refine ⟨entry, focus, layout, event, ?_, rfl, ?_⟩
      · rw [entry?_of_selected selected]
        exact found
      · rw [reaction]

/-- Without the link no entry changes, and nothing is to be committed. -/
theorem Outcome.of_down (h : Outcome p false result) :
    result.1.entries = p.entries ∧ result.2 = none := by
  cases h with
  | untouched entries commit => exact ⟨entries, commit⟩
  | received _ found reaction entries commit =>
      rw [Draft.receive_of_down _ rfl] at reaction
      cases reaction
      obtain ⟨hi, hentry⟩ := List.getElem?_eq_some_iff.mp found
      refine ⟨?_, commit⟩
      rw [entries, ← hentry]
      exact List.set_getElem_self hi

end Panel
end DevicePanel
