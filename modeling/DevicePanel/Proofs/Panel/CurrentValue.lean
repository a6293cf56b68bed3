import DevicePanel.Editor.Draw
import DevicePanel.Panel.Basic
import DevicePanel.Proofs.Support.Except
import DevicePanel.Sheet.Load
import DevicePanel.Sheet.Report
import Mathlib.Data.List.Induction

/-!
# The current value, wherever it is shown

The current value of a parameter is shown in the list, in its field as long as nothing has
been entered there, and in the report of its sheet.  The list and the report put the units
behind the value as they are given.  The field leaves blanks around them out, and blank units
altogether.  So the field shows what the list does exactly if there is no value or nothing is
left out.
-/

namespace DevicePanel

/-- Units without the blanks around them; blank ones are none. -/
def tidyUnits (units : Option String) : Option String :=
  (units.map Text.trim).filter (!·.isEmpty)

/-- A field shows the value as a list would show it with tidy units. -/
theorem placeholder_eq (value : Option Value) (units : Option String) :
    placeholder value units = currentText value (tidyUnits units) ++ " (current)" := by
  cases value with
  | none => rfl
  | some v =>
      rw [placeholder, ← tidyUnits]
      cases tidyUnits units <;> rfl

/-- Units are tidy exactly if they are not empty and have no blank at their ends. -/
theorem tidyUnits_eq_iff (units : Option String) :
    tidyUnits units = units ↔ ∀ u, units = some u → u ≠ "" ∧ Text.trim u = u := by
  cases units with
  | none => simp [tidyUnits]
  | some u =>
      by_cases hempty : Text.trim u = ""
      · have hnone : tidyUnits (some u) = none := by simp [tidyUnits, hempty]
        rw [hnone]
        refine iff_of_false (fun h => nomatch h) ?_
        intro h
        obtain ⟨hne, htrim⟩ := h u rfl
        exact hne (htrim.symm.trans hempty)
      · have hsome : tidyUnits (some u) = some (Text.trim u) := by simp [tidyUnits, hempty]
        rw [hsome]
        constructor
        · intro h u' hu
          cases hu
          have htrim : Text.trim u = u := Option.some.inj h
          exact ⟨htrim ▸ hempty, htrim⟩
        · intro h
          rw [(h u rfl).2]

/-- A value is shown with other units in another way. -/
theorem currentText_inj (v : Value) (units units' : Option String) :
    currentText (some v) units = currentText (some v) units' ↔ units = units' := by
  -- Units make the text longer, so no units can stand for some.
  have hlonger : ∀ u, v.display ++ " " ++ u ≠ v.display := by
    intro u h
    have hlength := congrArg String.length h
    simp only [String.length_append] at hlength
    have hspace : " ".length = 1 := rfl
    omega
  cases units with
  | none =>
      cases units' with
      | none => exact iff_of_true rfl rfl
      | some u' => exact iff_of_false (fun h => hlonger u' h.symm) (fun h => nomatch h)
  | some u =>
      cases units' with
      | none => exact iff_of_false (hlonger u) (fun h => nomatch h)
      | some u' => simp [currentText]

theorem placeholder_eq_iff (value : Option Value) (units : Option String) :
    placeholder value units = currentText value units ++ " (current)" ↔
      value = none ∨ ∀ u, units = some u → u ≠ "" ∧ Text.trim u = u := by
  rw [placeholder_eq, String.append_left_inj, ← tidyUnits_eq_iff]
  cases value with
  | none => exact iff_of_true rfl (.inl rfl)
  | some v => simp [currentText_inj]

namespace Entry

/-- Of some commits to an entry the last one counts, and they leave its draft alone. -/
theorem foldl_commit (e : Entry) (commits : List Value) :
    commits.foldl commit e =
      { e with parameter :=
          { e.parameter with value := commits.getLast?.or e.parameter.value } } := by
  induction commits using List.reverseRecOn with
  | nil => rfl
  | append_singleton commits v ih =>
      rw [List.foldl_append, ih, List.getLast?_concat]
      rfl

end Entry
end DevicePanel
