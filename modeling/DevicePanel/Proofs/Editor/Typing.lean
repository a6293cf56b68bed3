import DevicePanel.Proofs.Editor.Event

/-!
# Typing a text

The keys of characters put them into a field one by one, and the field ends up with what
a paste of all of them would have given it.  A text that has not been edited is empty:
every edit marks it as edited, and whatever else happens to it keeps its characters or
throws all of them away.  So a text that is typed into an idle field stands there alone.
-/

namespace DevicePanel

namespace LineBuffer

theorem eq_empty_of_toList {b : LineBuffer} (h : b.toList = []) : b = .empty := by
  obtain ⟨before, after⟩ := b
  obtain ⟨hbefore, hafter⟩ := List.append_eq_nil_iff.mp h
  have hnone : before = [] := List.reverse_eq_nil_iff.mp hbefore
  rw [hnone, show after = [] from hafter]
  rfl

theorem text_ofText (s : String) : (ofText s).text = s := by
  simp [ofText, text, toList]

end LineBuffer

namespace TextDraft

/-- The draft after the keys of some characters. -/
def typed (t : TextDraft) (cs : List Char) : TextDraft :=
  cs.foldl (fun t c => t.edit (·.insert c)) t

/-- Typing characters does what inserting all of them does. -/
theorem typed_eq_edit {cs : List Char} (h : cs ≠ []) (t : TextDraft) :
    t.typed cs = t.edit (·.insertAll cs) := by
  induction cs generalizing t with
  | nil => exact absurd rfl h
  | cons c cs ih =>
      have hhead : t.typed (c :: cs) = (t.edit (·.insert c)).typed cs := rfl
      rw [hhead]
      by_cases hrest : cs = []
      · subst hrest
        rfl
      · rw [ih hrest]
        simp [edit, LineBuffer.insert, LineBuffer.insertAll]

/-- A text that is typed into an empty field is all that stands there. -/
theorem typed_of_empty {t : TextDraft} (empty : t.buffer = .empty) {text : String}
    (h : text ≠ "") : t.typed text.toList = { buffer := .ofText text, edited := true } := by
  have hchars : text.toList ≠ [] := by
    rw [Ne, String.toList_eq_nil_iff]
    exact h
  have hbuffer : t.buffer.insertAll text.toList = .ofText text := by
    rw [empty]
    simp [LineBuffer.insertAll, LineBuffer.ofText, LineBuffer.empty]
  rw [typed_eq_edit hchars, edit, hbuffer]

theorem confirm_ofText (text : String) (f : Format) (committed : Option Value) :
    ({ buffer := .ofText text, edited := true } : TextDraft).confirm f committed =
      match f.parse text with
      | .ok v => ({ buffer := .ofText text, edited := true }, some v)
      | .error e => ({ buffer := .ofText text, edited := true, error := some e }, none) := by
  have hread : ({ buffer := .ofText text, edited := true } : TextDraft).read f committed =
      f.parse text := by
    rw [read_of_edited rfl, LineBuffer.text_ofText]
  cases hparse : f.parse text with
  | ok v => simp only [confirm, hread, hparse]
  | error e => simp only [confirm, hread, hparse]

end TextDraft

namespace Draft

/-- A text that has not been edited is empty. -/
def IdleEmpty : Draft → Prop
  | .switch _ => True
  | .text t => t.edited = false → t.buffer = .empty

theorem idleEmpty_mount (f : Format) (committed : Option Value) :
    (mount f committed).IdleEmpty := by
  rw [mount]
  split
  · trivial
  · intro _
    rfl

/-- The key of a character other than a control inserts it. -/
theorem fieldKey_char {c : Char} (hc : Text.isControl c = false) (t : TextDraft) :
    fieldKey t (.char c) = t.edit (·.insert c) := by
  have hedit : keyEdit? (.char c) = some (LineBuffer.insert · c) := by
    rw [keyEdit?, hc]
    rfl
  rw [fieldKey, hedit]

variable {p : EditorProps} {focus : EditorFocus} {layout : EditorLayout}

theorem idleEmpty_receive {d : Draft} (h : d.IdleEmpty) (event : EditorEvent) :
    (d.receive p focus layout event).1.IdleEmpty := by
  refine textIs_receive (P := fun t => t.edited = false → t.buffer = .empty) ?_ ?_ ?_ h
  · intro _
    rfl
  · intro t f _ _ hidle
    cases hidle
  · intro t t' same hempty hidle
    apply LineBuffer.eq_empty_of_toList
    rw [same.1, hempty (same.2.symm.trans hidle)]
    rfl

end Draft
end DevicePanel
