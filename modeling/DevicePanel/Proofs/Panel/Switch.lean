import DevicePanel.Proofs.Panel.Event

/-!
# A switch that is selected

A switch has no button.  So while its entry is selected, the keys that activate it ask for
a commit if it has the focus, the pointer asks for one if it is pressed on it, and nothing
else does.  Whatever asks for a commit also flips the switch, and nothing else touches it.
-/

namespace DevicePanel

/-- The keys that activate a switch: Space and Enter, unless Control or Alt is held
down. -/
def KeyEvent.Activates (e : KeyEvent) : Prop :=
  (e.key = .char ' ' ∨ e.key = .enter) ∧
    e.modifiers.control = false ∧ e.modifiers.alt = false

instance (e : KeyEvent) : Decidable e.Activates := inferInstanceAs (Decidable (_ ∧ _ ∧ _))

theorem KeyEvent.flipsSwitch_iff (e : KeyEvent) : e.flipsSwitch = true ↔ e.Activates := by
  simp [flipsSwitch, isCommand, Activates]

theorem KeyEvent.Activates.not_isMove {e : KeyEvent} (h : e.Activates) : ¬ e.IsMove := by
  rintro (hkey | hkey | hkey | hkey) <;> simp [Activates, hkey] at h

namespace EditorLayout

theorem width_confirm_of_switch (isCompact : Bool) (area : Rect) :
    (ofArea true isCompact area).confirm.width = 0 := by
  have htall : ∀ label width, (tallSwitch label width).confirm = 0 := by
    intro label width
    rw [tallSwitch]
    split <;> rfl
  have hcompact : ∀ label width, (compactSwitch label width).confirm = 0 := by
    intro label width
    rw [compactSwitch]
    split
    · rfl
    · split <;> rfl
  cases isCompact with
  | false => exact htall _ _
  | true => exact hcompact _ _

/-- Without columns for the button, only the field is at a cell. -/
theorem control?_of_narrow {l : EditorLayout} (h : l.confirm.width = 0) (x y : Nat) :
    l.control? x y = if l.field.contains x y then some .input else none := by
  have hnone : l.confirm.contains x y = false := by
    rw [Bool.eq_false_iff, Ne, Rect.contains_eq_true_iff, Rect.right, h]
    omega
  rw [control?, hnone]
  rfl

end EditorLayout

namespace Panel

variable {p : Panel} {connected : Bool} {result : Panel × Option Commit}
  {i : Nat} {entry : Entry} {on : Bool}

/-- While a switch is selected, input touches nothing, or it flips the switch and asks to
commit the new position. -/
theorem Outcome.of_switch (h : Outcome p connected result) (selected : p.selected = some i)
    (found : p.entries[i]? = some entry) (hdraft : entry.draft = .switch on) :
    p.Untouched result ∨
      (result.1.entries = p.entries.set i { entry with draft := .switch !on } ∧
        result.2 = some ⟨entry.key, .bool !on⟩) := by
  cases h with
  | untouched entries commit => exact .inl ⟨entries, commit⟩
  | @received j other d value focus layout event hj hother reaction entries commit =>
      cases selected.symm.trans hj
      cases found.symm.trans hother
      rw [hdraft] at reaction
      rcases Draft.receive_switch (entry.props connected) focus layout on event with heq | heq
      · cases heq.symm.trans reaction
        obtain ⟨hi, hentry⟩ := List.getElem?_eq_some_iff.mp found
        refine .inl ⟨?_, commit⟩
        rw [entries, ← hdraft, ← hentry]
        exact List.set_getElem_self hi
      · cases heq.symm.trans reaction
        exact .inr ⟨entries, commit⟩

theorem controls_of_switch (selected : p.selected = some i)
    (found : p.entries[i]? = some entry) (hdraft : entry.draft = .switch on) :
    p.controls = [.list, .editor i .input] := by
  rw [controls, entry?_of_selected selected, selected, found]
  dsimp only
  rw [hdraft]
  rfl

/-- A switch has no button, so no control of its editor has the focus if it has not. -/
theorem editorFocus_of_switch (selected : p.selected = some i)
    (found : p.entries[i]? = some entry) (hdraft : entry.draft = .switch on)
    (focused : ∀ c, p.focus.current = some c → c ∈ p.controls)
    (h : p.focus.current ≠ some (.editor i .input)) : p.editorFocus.any = false := by
  have hconfirm : p.focus.current ≠ some (.editor i .confirm) := by
    intro hcurrent
    have hmem := focused _ hcurrent
    rw [controls_of_switch selected found hdraft] at hmem
    simp at hmem
  rw [editorFocus, selected]
  simp [EditorFocus.any, Focus.ofEditor, Focus.isOn, h, hconfirm]

/-- A key asks for a commit exactly when it activates a switch that has the focus. -/
theorem isSome_key_iff (selected : p.selected = some i)
    (found : p.entries[i]? = some entry) (hdraft : entry.draft = .switch on)
    (focused : ∀ c, p.focus.current = some c → c ∈ p.controls) (e : KeyEvent) :
    (p.key connected e).2.isSome = true ↔
      connected = true ∧ e.Activates ∧ p.focus.current = some (.editor i .input) := by
  by_cases hfocus : p.focus.current = some (.editor i .input)
  · by_cases hmove : e.IsMove
    · have huntouched : p.Untouched (p.key connected e) := untouched_of_move hmove
      have hkey : ¬ e.Activates := fun hkey => hkey.not_isMove hmove
      simp [huntouched.2, hkey]
    · rw [key_of_input selected found hfocus hmove, edit_of_found selected found, hdraft,
        ← e.flipsSwitch_iff]
      cases connected <;> cases hflips : e.flipsSwitch <;>
        simp [Draft.key, Entry.props, hflips, hfocus, Draft.flipAndCommit, Draft.flip]
  · have huntouched : p.Untouched (p.key connected e) :=
      untouched_of_unfocused (editorFocus_of_switch selected found hdraft focused hfocus) e
    simp [huntouched.2, hfocus]

/-- The pointer asks for a commit exactly when it is pressed on a switch.  Here the switch
stands apart from the list, and nothing else of its editor is under the pointer. -/
theorem isSome_pointer_iff (selected : p.selected = some i)
    (found : p.entries[i]? = some entry) (hdraft : entry.draft = .switch on)
    (narrow : p.editorLayout.confirm.width = 0)
    (apart : ∀ x y, p.editorLayout.field.contains x y = true →
      p.listArea.contains x y = false) (e : PointerEvent) :
    (p.pointer connected e).2.isSome = true ↔
      connected = true ∧ e.action = .press ∧
        p.editorLayout.field.contains e.x e.y = true := by
  have hcontrol := EditorLayout.control?_of_narrow narrow e.x e.y
  cases haction : e.action with
  | otherPress | release | drag | move | scroll => simp [pointer, haction]
  | press =>
      cases hfield : p.editorLayout.field.contains e.x e.y with
      | false =>
          rw [hfield, if_neg Bool.false_ne_true] at hcontrol
          have hnone : (p.pointer connected e).2 = none := by
            rw [pointer, haction]
            dsimp only
            split
            · rfl
            · rw [editorPress, hcontrol]
          simp [hnone]
      | true =>
          rw [hfield, if_pos rfl] at hcontrol
          have hpress : p.pointer connected e =
              (p.moveFocus (.editor i .input)).edit fun entry =>
                entry.draft.pointer (entry.props connected) p.editorLayout e := by
            rw [pointer, haction]
            dsimp only
            rw [apart _ _ hfield, if_neg Bool.false_ne_true, editorPress, hcontrol]
            dsimp only
            rw [entry?_of_selected selected, selected, found]
            rfl
          rw [hpress, @edit_of_found (p.moveFocus _) i entry selected found, hdraft]
          cases connected <;>
            simp [Draft.pointer, Entry.props, haction, hcontrol, Draft.flipAndCommit,
              Draft.flip]

end Panel

end DevicePanel
