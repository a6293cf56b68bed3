import DevicePanel.Proofs.Editor.Event

/-!
# What an event does to a text

While the link is up, an event edits a text, throws it away, confirms it, or moves the
cursor in it at most; which of these it does can be told from the event, the focus and the
layout alone.  Whatever it does, no line break gets into the text.
-/

namespace DevicePanel

/-! ## Kinds of events -/

namespace EditorEvent

/-- The event edits the text in the field: a key that is no command inserts or deletes a
character, or a text is pasted.  None of this happens while the button has the focus. -/
def IsEdit (focus : EditorFocus) : EditorEvent → Prop
  | .key e => focus.confirm = false ∧ e.isCommand = false ∧
      (e.key = .backspace ∨ e.key = .delete ∨ ∃ c, e.key = .char c ∧ Text.isControl c = false)
  | .paste _ => focus.confirm = false
  | .pointer _ => False

/-- The event throws the text away. -/
def IsEscape : EditorEvent → Prop
  | .key e => e.key = .escape
  | .paste _ | .pointer _ => False

/-- The event confirms the text, by a key or on the button. -/
def IsConfirm (layout : EditorLayout) : EditorEvent → Prop
  | .key e => e.key = .enter
  | .paste _ => False
  | .pointer e => e.action = .press ∧ layout.control? e.x e.y = some .confirm

variable {focus : EditorFocus} {layout : EditorLayout} {event : EditorEvent}

/-- These are the events that stand for an edit. -/
theorem isEdit_iff : event.IsEdit focus ↔ (Draft.editOf? focus event).isSome = true := by
  cases event with
  | key e =>
      cases hbutton : focus.confirm with
      | true => simp [IsEdit, Draft.editOf?, hbutton]
      | false =>
          cases hcommand : e.isCommand with
          | true => simp [IsEdit, Draft.editOf?, hcommand]
          | false =>
              cases hkey : e.key with
              | char c =>
                  cases hcontrol : Text.isControl c <;>
                    simp [IsEdit, Draft.editOf?, Draft.keyEdit?, hbutton, hcommand, hkey,
                      hcontrol]
              | _ => simp [IsEdit, Draft.editOf?, Draft.keyEdit?, hbutton, hcommand, hkey]
  | paste pasted => cases hbutton : focus.confirm <;> simp [IsEdit, Draft.editOf?, hbutton]
  | pointer e => simp [IsEdit, Draft.editOf?]

theorem IsConfirm.not_isEdit (h : event.IsConfirm layout) : ¬ event.IsEdit focus := by
  intro hedit
  cases event with
  | key e =>
      have hkey : e.key = .enter := h
      simp [IsEdit, hkey] at hedit
  | paste pasted => exact h
  | pointer e => exact hedit

theorem IsEscape.not_isConfirm (h : event.IsEscape) : ¬ event.IsConfirm layout := by
  intro hconfirm
  cases event with
  | key e => cases Eq.trans (Eq.symm h) hconfirm
  | paste pasted | pointer e => exact h

end EditorEvent

namespace Draft

variable {p : EditorProps} {focus : EditorFocus} {layout : EditorLayout}
  {event : EditorEvent} {t : TextDraft}

/-! ## What an event does to a text -/

theorem receive_of_isEdit (up : p.connected = true) (h : event.IsEdit focus) :
    ∃ f, (Draft.text t).receive p focus layout event = (.text (t.edit f), none) := by
  cases reaction_receive up layout t event with
  | edit _ heq => exact ⟨_, heq⟩
  | keep hnone _ _ | clear hnone _ | confirm hnone _ =>
      rw [EditorEvent.isEdit_iff, hnone] at h
      cases h

theorem receive_of_isEscape (up : p.connected = true) (h : event.IsEscape) :
    (Draft.text t).receive p focus layout event = (.text {}, none) := by
  cases event with
  | key e =>
      have hkey : e.key = .escape := h
      simp [receive, key, up, textKey, hkey]
  | paste pasted | pointer e => exact absurd h not_false

theorem receive_of_isConfirm (up : p.connected = true) (h : event.IsConfirm layout) :
    (Draft.text t).receive p focus layout event =
      (Draft.text t).confirm p.format p.committed := by
  cases event with
  | key e =>
      have hkey : e.key = .enter := h
      simp [receive, key, up, textKey, hkey]
  | paste pasted => exact absurd h not_false
  | pointer e =>
      obtain ⟨hpress, hcontrol⟩ := h
      simp [receive, pointer, up, hpress, hcontrol]

/-- Any other event moves the cursor at most. -/
theorem receive_of_other (up : p.connected = true) (hedit : ¬ event.IsEdit focus)
    (hescape : ¬ event.IsEscape) (hconfirm : ¬ event.IsConfirm layout) :
    ∃ b, (Draft.text t).receive p focus layout event =
      (.text { t with buffer := b }, none) := by
  have hnone : editOf? focus event = none := by
    rw [EditorEvent.isEdit_iff, Bool.not_eq_true, Option.isSome_eq_false_iff,
      Option.isNone_iff_eq_none] at hedit
    exact hedit
  cases event with
  | key e =>
      have htext : (Draft.text t).receive p focus layout (.key e) =
          (.text (if focus.confirm || e.isCommand then t else fieldKey t e.key), none) := by
        rw [receive, key, up, Bool.not_true, if_neg Bool.false_ne_true,
          textKey]
        split
        next hkey => exact absurd hkey hconfirm
        next hkey => exact absurd hkey hescape
        · rfl
      rw [htext]
      split
      · exact ⟨t.buffer, rfl⟩
      next hfield =>
        have hkey : keyEdit? e.key = none := by
          rw [editOf?, if_neg hfield] at hnone
          exact hnone
        rw [fieldKey, hkey]
        dsimp only
        split
        · exact ⟨_, rfl⟩
        · exact ⟨t.buffer, rfl⟩
  | paste pasted =>
      have hbutton : focus.confirm = true := by
        rw [editOf?] at hnone
        split at hnone
        next hbutton => exact hbutton
        · cases hnone
      refine ⟨t.buffer, ?_⟩
      simp [receive, paste, hbutton]
  | pointer e =>
      rw [receive, pointer]
      split
      · exact ⟨t.buffer, rfl⟩
      next hpress =>
        have haction : e.action = .press := by
          simpa [up] using hpress
        split
        · exact ⟨t.buffer, rfl⟩
        next hcontrol => exact absurd ⟨haction, hcontrol⟩ hconfirm
        · exact ⟨_, rfl⟩

theorem error?_mount (f : Format) (committed : Option Value) :
    (mount f committed).error? = none := by
  rw [mount]
  split <;> rfl

/-! ## Line breaks -/

/-- The characters that are kept out of a text. -/
def IsLineBreak (c : Char) : Prop := c = '\n' ∨ c = '\r'

/-- A text of one line. -/
def OneLine : Draft → Prop := TextIs fun t => ∀ c ∈ t.buffer.toList, ¬ IsLineBreak c

theorem not_isLineBreak_of_printable {c : Char} (h : Text.isControl c = false) :
    ¬ IsLineBreak c := by
  rintro (rfl | rfl) <;> cases h

/-- An edit inserts nothing but characters of a line. -/
theorem mem_of_edit {f : LineBuffer → LineBuffer} (h : editOf? focus event = some f)
    {b : LineBuffer} {c : Char} (hc : c ∈ (f b).toList) :
    c ∈ b.toList ∨ ¬ IsLineBreak c := by
  cases event with
  | key e =>
      rw [editOf?] at h
      split at h
      · cases h
      · cases hkey : e.key with
        | char c' =>
            rw [hkey, keyEdit?] at h
            split at h
            · cases h
            next hprintable =>
              cases h
              have hmem : c ∈ b.before.reverse ++ c' :: b.after := by
                simpa [LineBuffer.insert, LineBuffer.toList] using hc
              rcases List.mem_append.mp hmem with hbefore | hafter
              · exact .inl (List.mem_append_left _ hbefore)
              · rcases List.mem_cons.mp hafter with rfl | hafter
                · exact .inr (not_isLineBreak_of_printable (Bool.eq_false_iff.mpr hprintable))
                · exact .inl (List.mem_append_right _ hafter)
        | backspace =>
            rw [hkey] at h
            cases h
            rcases List.mem_append.mp hc with hbefore | hafter
            · have hmem := List.mem_of_mem_drop (List.mem_reverse.mp hbefore)
              exact .inl (List.mem_append_left _ (List.mem_reverse.mpr hmem))
            · exact .inl (List.mem_append_right _ hafter)
        | delete =>
            rw [hkey] at h
            cases h
            rcases List.mem_append.mp hc with hbefore | hafter
            · exact .inl (List.mem_append_left _ hbefore)
            · exact .inl (List.mem_append_right _ (List.mem_of_mem_drop hafter))
        | _ =>
            rw [hkey] at h
            cases h
  | paste pasted =>
      rw [editOf?] at h
      split at h
      · cases h
      · cases h
        have hmem : c ∈ b.before.reverse ++ (pastedChars pasted ++ b.after) := by
          simpa [LineBuffer.insertAll, LineBuffer.toList] using hc
        rcases List.mem_append.mp hmem with hbefore | hrest
        · exact .inl (List.mem_append_left _ hbefore)
        · rcases List.mem_append.mp hrest with hpasted | hafter
          · refine .inr ?_
            have hkept := (List.mem_filter.mp hpasted).2
            rintro (rfl | rfl) <;> cases hkept
          · exact .inl (List.mem_append_right _ hafter)
  | pointer e => cases h

theorem oneLine_mount (f : Format) (committed : Option Value) :
    (mount f committed).OneLine := by
  rw [mount]
  split
  · trivial
  · intro c hc
    cases hc

theorem oneLine_receive {d : Draft} (h : d.OneLine) (event : EditorEvent) :
    (d.receive p focus layout event).1.OneLine := by
  refine textIs_receive ?_ ?_ ?_ h
  · intro c hc
    cases hc
  · intro t f hedit hline c hc
    rcases mem_of_edit hedit hc with hold | hnew
    · exact hline c hold
    · exact hnew
  · intro t t' same hline c hc
    rw [same.1] at hc
    exact hline c hc

end Draft
end DevicePanel
