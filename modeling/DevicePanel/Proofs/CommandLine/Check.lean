import DevicePanel.CommandLine.Run
import DevicePanel.Proofs.Json.OneLine
import DevicePanel.Proofs.Sheet.Columns
import DevicePanel.Proofs.Sheet.Resolution

/-!
# Listing a sheet without a panel

The command that checks a sheet writes its report, a line for each parameter.  Keys, texts and
units are written as they are, and a line feed in one of them ends the line.  So there are as
many lines as parameters exactly if no parameter has a line feed in what is shown of it.
Numbers, booleans and structured values never have one.
-/

namespace DevicePanel

/-! ## Lines -/

/-- The lines of a text, without the line feeds that end them.  What is behind the last line
feed is no line. -/
def endedLines (s : String) : List String :=
  (s.toList.splitOn '\n').dropLast.map String.ofList

theorem length_splitOn (a : Char) (cs : List Char) :
    (cs.splitOn a).length = cs.count a + 1 := by
  induction cs with
  | nil => rfl
  | cons c cs ih =>
      rw [List.splitOn_cons_eq_if_modifyHead, List.count_cons]
      split
      · rw [List.length_cons, ih]
      · rw [List.length_modifyHead, ih]

theorem length_endedLines (s : String) : (endedLines s).length = s.toList.count '\n' := by
  rw [endedLines, List.length_map, List.length_dropLast, length_splitOn, Nat.add_sub_cancel]

namespace Outcome

theorem toList_joinLines_cons (line : String) (lines : List String) :
    (joinLines (line :: lines)).toList = line.toList ++ '\n' :: (joinLines lines).toList := by
  rw [joinLines, joinLines, String.toList_join, String.toList_join, List.map_cons,
    List.flatMap_cons, String.toList_append, List.append_assoc]
  rfl

/-- Every line is ended by a line feed, besides the ones that it has itself. -/
theorem count_joinLines (lines : List String) :
    (joinLines lines).toList.count '\n' =
      lines.length + (lines.map fun line => line.toList.count '\n').sum := by
  induction lines with
  | nil => rfl
  | cons line lines ih =>
      rw [toList_joinLines_cons, List.count_append, List.count_cons_self, ih, List.length_cons,
        List.map_cons, List.sum_cons]
      omega

/-- Lines without line feeds are the lines that are written. -/
theorem endedLines_joinLines {lines : List String} (h : ∀ line ∈ lines, '\n' ∉ line.toList) :
    endedLines (joinLines lines) = lines := by
  induction lines with
  | nil => rfl
  | cons line lines ih =>
      obtain ⟨hline, hlines⟩ := List.forall_mem_cons.mp h
      rw [endedLines, toList_joinLines_cons, List.splitOn_append_cons_self_of_not_mem hline,
        List.dropLast_cons_of_ne_nil (List.splitOn_ne_nil _ _), List.map_cons,
        String.ofList_toList]
      exact congrArg (line :: ·) (ih hlines)

/-- As many lines are written as are given exactly if none of them has a line feed. -/
theorem length_endedLines_joinLines_iff {lines : List String} :
    (endedLines (joinLines lines)).length = lines.length ↔
      ∀ line ∈ lines, '\n' ∉ line.toList := by
  rw [length_endedLines, count_joinLines, Nat.add_eq_left, List.sum_eq_zero_iff_forall_eq_nat]
  simp only [List.forall_mem_map, List.count_eq_zero]

end Outcome

/-! ## What is shown of a parameter -/

/-- There is no line feed in what is shown of a parameter: in its key, in its value if that is a
text, and in the units behind its value. -/
structure Parameter.OnOneLine (p : Parameter) : Prop where
  key : '\n' ∉ p.key.toList
  text : ∀ s, p.value = some (.text s) → '\n' ∉ s.toList
  units : ∀ units, p.value.isSome → p.shownUnits = some units → '\n' ∉ units.toList

/-- Of the values only texts are shown with line feeds. -/
theorem Value.lineFeed_not_mem_display {v : Value} :
    '\n' ∉ v.display.toList ↔ ∀ s, v = .text s → '\n' ∉ s.toList := by
  have hcompact (w : Json) : '\n' ∉ w.compact.toList := by
    rw [Json.compact, String.toList_ofList]
    exact w.oneLine_chars.lineFeed_not_mem
  cases v with
  | text s =>
      refine ⟨fun h t ht => ?_, fun h => h s rfl⟩
      cases ht
      exact h
  | number n => exact iff_of_true (hcompact _) fun _ h => nomatch h
  | bool b => exact iff_of_true (hcompact _) fun _ h => nomatch h
  | structured w => exact iff_of_true (hcompact _) fun _ h => nomatch h

namespace Sheet

theorem lineFeed_not_mem_currentText {p : Parameter} :
    '\n' ∉ (currentText p.value p.shownUnits).toList ↔
      (∀ s, p.value = some (.text s) → '\n' ∉ s.toList) ∧
      ∀ units, p.value.isSome → p.shownUnits = some units → '\n' ∉ units.toList := by
  cases hvalue : p.value with
  | none =>
      have hunset : currentText none p.shownUnits = "unset" := rfl
      rw [hunset]
      exact iff_of_true (by decide) ⟨fun _ h => (nomatch h), fun _ h => (nomatch h)⟩
  | some v =>
      have hdisplay := v.lineFeed_not_mem_display
      cases hunits : p.shownUnits with
      | none => simp [currentText, hdisplay]
      | some units => simp [currentText, hdisplay]

/-- The line of a parameter has line feeds in what it shows of it only. -/
theorem lineFeed_not_mem_reportLine {width : Nat} {p : Parameter} :
    '\n' ∉ (reportLine width p).toList ↔ p.OnOneLine := by
  have hplain : ¬ Text.IsPlain '\n' := by decide
  have hspaces (n : Nat) : '\n' ∉ (spaces n).toList := fun h => hplain (isPlain_of_mem_spaces h)
  have htag : '\n' ∉ p.format.tag.toList := fun h => hplain (p.format.isPlain_of_mem_tag _ h)
  rw [reportLine_eq]
  simp only [String.toList_append, List.mem_append, not_or, hspaces, htag, not_false_eq_true,
    and_true, lineFeed_not_mem_currentText]
  exact ⟨fun ⟨hkey, htext, hunits⟩ => ⟨hkey, htext, hunits⟩,
    fun h => ⟨h.key, h.text, h.units⟩⟩

/-- A line begins with the key of a parameter and ends with its current value. -/
def Lists (p : Parameter) (line : String) : Prop :=
  p.key.toList <+: line.toList ∧ (currentText p.value p.shownUnits).toList <:+ line.toList

theorem lists_reportLine (width : Nat) (p : Parameter) : Lists p (reportLine width p) := by
  rw [reportLine_eq]
  constructor
  · simp only [String.toList_append, List.append_assoc]
    exact List.prefix_append _ _
  · rw [String.toList_append]
    exact List.suffix_append _ _

end Sheet

namespace Request

variable {site : Site} {path : Option String} {sheet : Sheet}

/-- Checking a sheet that can be read writes its report. -/
theorem run_check (h : Sheet.load site.host path = .ok sheet) :
    (Request.check path).run site = .success sheet.report := by
  rw [run, checkLines, h]
  rfl

end Request
end DevicePanel
