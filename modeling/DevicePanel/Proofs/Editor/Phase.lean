import DevicePanel.Proofs.Editor.Event

/-!
# Leaving the idle phase

A text that has not been edited stands for the committed value; once it has been edited
it stands for itself.  An edit counts as one even when it changes nothing: a deletion
where nothing is to be deleted, or a pasted text of line breaks only.  These empty edits
are the only way in which an unchanged text comes to stand for itself, and then its
confirmation replaces the committed value.
-/

namespace DevicePanel

namespace LineBuffer

/-! ## The text behind an edit -/

theorem toList_insertAll_eq_iff (b : LineBuffer) (cs : List Char) :
    (b.insertAll cs).toList = b.toList ↔ cs = [] := by
  constructor
  · intro h
    have hlength := congrArg List.length h
    simp only [insertAll, toList, List.reverse_append, List.reverse_reverse,
      List.length_append, List.length_reverse] at hlength
    exact List.eq_nil_of_length_eq_zero (by omega)
  · rintro rfl
    rfl

theorem toList_insert_ne (b : LineBuffer) (c : Char) : (b.insert c).toList ≠ b.toList := by
  intro h
  have hnone : [c] = [] := (b.toList_insertAll_eq_iff [c]).mp h
  cases hnone

theorem toList_backspace_eq_iff (b : LineBuffer) :
    b.backspace.toList = b.toList ↔ b.before = [] := by
  rcases b with ⟨_ | ⟨c, before⟩, after⟩
  · exact iff_of_true rfl rfl
  · refine iff_of_false ?_ (List.cons_ne_nil c before)
    intro h
    have hlength := congrArg List.length h
    simp only [backspace, toList, List.drop_succ_cons, List.drop_zero, List.length_append,
      List.length_reverse, List.length_cons] at hlength
    omega

theorem toList_delete_eq_iff (b : LineBuffer) :
    b.delete.toList = b.toList ↔ b.after = [] := by
  rcases b with ⟨before, _ | ⟨c, after⟩⟩
  · exact iff_of_true rfl rfl
  · refine iff_of_false ?_ (List.cons_ne_nil c after)
    intro h
    have hlength := congrArg List.length h
    simp only [delete, toList, List.drop_succ_cons, List.drop_zero, List.length_append,
      List.length_reverse, List.length_cons] at hlength
    omega

theorem text_eq_iff (b b' : LineBuffer) : b.text = b'.text ↔ b.toList = b'.toList := by
  rw [text, text, String.ofList_inj]

end LineBuffer

namespace EditorEvent

/-- The event is an edit of the text in the field that deletes or inserts nothing. -/
def IsEmptyEdit (b : LineBuffer) (focus : EditorFocus) : EditorEvent → Prop
  | .key e => focus.confirm = false ∧ e.isCommand = false ∧
      (e.key = .backspace ∧ b.before = [] ∨ e.key = .delete ∧ b.after = [])
  | .paste pasted => focus.confirm = false ∧ Draft.pastedChars pasted = []
  | .pointer _ => False

instance (b : LineBuffer) (focus : EditorFocus) : DecidablePred (IsEmptyEdit b focus)
  | .key _ => inferInstanceAs (Decidable (_ ∧ _ ∧ (_ ∨ _)))
  | .paste _ => inferInstanceAs (Decidable (_ ∧ _))
  | .pointer _ => inferInstanceAs (Decidable False)

/-- An empty edit is an edit. -/
theorem IsEmptyEdit.isEdit {b : LineBuffer} {focus : EditorFocus} {event : EditorEvent}
    (h : event.IsEmptyEdit b focus) : Draft.editOf? focus event ≠ none := by
  cases event with
  | key e =>
      obtain ⟨hbutton, hplain, hkey⟩ := h
      rw [Draft.editOf?, hbutton, hplain]
      rcases hkey with ⟨hkey, -⟩ | ⟨hkey, -⟩ <;> simp [hkey, Draft.keyEdit?]
  | paste pasted =>
      rw [Draft.editOf?, h.1]
      simp
  | pointer e => exact absurd h not_false

/-- Exactly the empty edits leave the characters as they are. -/
theorem toList_edit_eq_iff {b : LineBuffer} {focus : EditorFocus} {event : EditorEvent}
    {f : LineBuffer → LineBuffer} (h : Draft.editOf? focus event = some f) :
    (f b).toList = b.toList ↔ event.IsEmptyEdit b focus := by
  cases event with
  | key e =>
      rw [Draft.editOf?] at h
      split at h
      · cases h
      next hfield =>
        obtain ⟨hbutton, hplain⟩ : focus.confirm = false ∧ e.isCommand = false := by
          simpa using hfield
        simp only [IsEmptyEdit, hbutton, hplain, true_and]
        cases hkey : e.key with
        | char c =>
            rw [hkey, Draft.keyEdit?] at h
            split at h
            · cases h
            · cases h
              simp [LineBuffer.toList_insert_ne]
        | backspace =>
            rw [hkey] at h
            cases h
            simp [LineBuffer.toList_backspace_eq_iff]
        | delete =>
            rw [hkey] at h
            cases h
            simp [LineBuffer.toList_delete_eq_iff]
        | _ =>
            rw [hkey] at h
            cases h
  | paste pasted =>
      rw [Draft.editOf?] at h
      split at h
      · cases h
      next hbutton =>
        cases h
        simp [IsEmptyEdit, hbutton, LineBuffer.toList_insertAll_eq_iff]
  | pointer e => cases h

end EditorEvent

namespace Draft

/-- Enter confirms a text. -/
theorem receive_enter {p : EditorProps} (up : p.connected = true) (focus : EditorFocus)
    (layout : EditorLayout) (t : TextDraft) :
    ((Draft.text t).receive p focus layout (.key (.plain .enter))).2 =
      (t.read p.format p.committed).toOption := by
  have hkey : (Draft.text t).receive p focus layout (.key (.plain .enter)) =
      (Draft.text t).confirm p.format p.committed := by
    rw [receive, key, up]
    rfl
  rw [hkey]
  exact (t.confirm_spec p.format p.committed).2

/-- An idle text stays idle, and then the event was no empty edit, or it has been edited,
and then it has changed unless the edit was empty. -/
theorem receive_of_idle {p : EditorProps} (up : p.connected = true) {t : TextDraft}
    (idle : t.edited = false) (focus : EditorFocus) (layout : EditorLayout)
    (event : EditorEvent) :
    ∃ t' v, (Draft.text t).receive p focus layout event = (.text t', v) ∧
      (t'.edited = false ∧ ¬ event.IsEmptyEdit t.buffer focus ∨
        t'.edited = true ∧
          (t'.buffer.text = t.buffer.text ↔ event.IsEmptyEdit t.buffer focus)) := by
  cases reaction_receive up layout t event with
  | keep hedit same heq =>
      exact ⟨_, _, heq, .inl ⟨same.2.trans idle, fun h => h.isEdit hedit⟩⟩
  | clear hedit heq => exact ⟨_, _, heq, .inl ⟨rfl, fun h => h.isEdit hedit⟩⟩
  | confirm hedit heq =>
      have same := (t.confirm_spec p.format p.committed).1
      exact ⟨_, _, heq, .inl ⟨same.2.trans idle, fun h => h.isEdit hedit⟩⟩
  | edit hedit heq =>
      refine ⟨_, _, heq, .inr ⟨rfl, ?_⟩⟩
      rw [LineBuffer.text_eq_iff]
      exact EditorEvent.toList_edit_eq_iff hedit

/-- An event takes an idle text out of its phase without changing it exactly if the event
is an empty edit.  Enter confirms the committed value after every other event that leaves
the text unchanged, and the unchanged text after an empty edit. -/
theorem leaves_idle_by_change_iff
    {p : EditorProps} (up : p.connected = true) {t : TextDraft} (idle : t.edited = false)
    (focus : EditorFocus) (layout : EditorLayout) (event : EditorEvent) :
    ∃ t' v, (Draft.text t).receive p focus layout event = (.text t', v) ∧
      ((t'.edited = true → t'.buffer.text ≠ t.buffer.text) ↔
        ¬ event.IsEmptyEdit t.buffer focus) ∧
      ∀ focus' layout', t'.buffer.text = t.buffer.text →
        ((Draft.text t').receive p focus' layout' (.key (.plain .enter))).2 =
          if event.IsEmptyEdit t.buffer focus then (p.format.parse t.buffer.text).toOption
          else p.committed := by
  obtain ⟨t', v, hreceive, hphase⟩ := receive_of_idle up idle focus layout event
  refine ⟨t', v, hreceive, ?_⟩
  rcases hphase with ⟨hidle, hchange⟩ | ⟨hedited, hchange⟩
  · constructor
    · refine iff_of_true (fun hedited => ?_) hchange
      rw [hidle] at hedited
      cases hedited
    · intro focus' layout' _
      rw [if_neg hchange, receive_enter up, TextDraft.read_of_idle hidle]
  · constructor
    · rw [← hchange, hedited]
      exact forall_prop_of_true rfl
    · intro focus' layout' htext
      rw [if_pos (hchange.mp htext), receive_enter up, TextDraft.read_of_edited hedited,
        htext]

/-- The general fact for a paste of line breaks into the field of a number. -/
theorem leaves_idle_by_change_iff_line_break :
    ({ committed := none, format := .number } : EditorProps).connected = true ∧
      ({} : TextDraft).edited = false ∧
      ∃ t' v, (Draft.text {}).receive { committed := none, format := .number } ⟨true, false⟩
          {} (.paste "\n") = (.text t', v) ∧
        ¬ (t'.edited = true → t'.buffer.text ≠ ({} : TextDraft).buffer.text) := by
  refine ⟨rfl, rfl, ?_⟩
  obtain ⟨t', v, hreceive, hchange, -⟩ :=
    leaves_idle_by_change_iff (p := { committed := none, format := .number }) rfl
      (t := {}) rfl ⟨true, false⟩ {} (.paste "\n")
  exact ⟨t', v, hreceive, fun h => hchange.mp h (by decide)⟩

/-- Backspace in the empty field and Enter replace a committed text by the empty one. -/
theorem empty_edit_commits_empty_text :
    ∃ t', (Draft.text {}).receive
        { committed := some (.text "bench-01"), format := .text } ⟨true, false⟩ {}
        (.key (.plain .backspace)) = (.text t', none) ∧
      t'.edited = true ∧ t'.buffer.text = ({} : TextDraft).buffer.text ∧
      ((Draft.text t').receive
        { committed := some (.text "bench-01"), format := .text } ⟨true, false⟩ {}
        (.key (.plain .enter))).2 = some (.text "") :=
  ⟨_, rfl, rfl, rfl, rfl⟩

end Draft

end DevicePanel
