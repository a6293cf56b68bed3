import DevicePanel.Proofs.Sheet.Accepted
import DevicePanel.Proofs.Text.Padding
import DevicePanel.Sheet.Report
import Mathlib.Data.List.Forall2
import Mathlib.Data.String.Basic

/-!
# The columns of a report

In the report of a sheet the keys are filled up with spaces to the bytes of the longest one,
counted in characters.  A terminal counts neither bytes nor characters but columns.  So what
comes behind the keys lines up exactly if every key has as many columns more, or less, than
characters as every other one; plain keys have as many of both.
-/

namespace DevicePanel

/-- Some spaces. -/
def spaces (n : Nat) : String := String.ofList (List.replicate n ' ')

theorem toList_spaces (n : Nat) : (spaces n).toList = List.replicate n ' ' :=
  String.toList_ofList

theorem isPlain_of_mem_spaces {n : Nat} {c : Char} (h : c ∈ (spaces n).toList) :
    Text.IsPlain c := by
  rw [toList_spaces] at h
  rw [List.eq_of_mem_replicate h]
  decide

namespace Format

theorem isPlain_of_mem_tag (f : Format) : ∀ c ∈ f.tag.toList, Text.IsPlain c := by
  have hall : f.tag.toList.all (fun c => decide (Text.IsPlain c)) = true := by cases f <;> rfl
  exact fun c hc => of_decide_eq_true (List.all_eq_true.mp hall c hc)

/-- A tag is not empty and does not begin with a space. -/
theorem exists_tag_eq (f : Format) : ∃ c cs, f.tag.toList = c :: cs ∧ c ≠ ' ' := by
  cases f with
  | number => exact ⟨'n', _, rfl, by decide⟩
  | numberWithUnits => exact ⟨'n', _, rfl, by decide⟩
  | bool => exact ⟨'b', _, rfl, by decide⟩
  | text => exact ⟨'s', _, rfl, by decide⟩
  | json => exact ⟨'j', _, rfl, by decide⟩

theorem length_tag_le (f : Format) : f.tag.length ≤ Sheet.formatWidth := by
  cases f <;> decide

end Format

namespace Sheet

/-! ## Where a line shows what -/

/-- A line shows the key of a parameter, then, behind spaces each, the tag of its format and its
current value.  The tag and the value begin at the given columns. -/
def ShowsAt (p : Parameter) (tagColumn valueColumn : Nat) (line : String) : Prop :=
  ∃ gap fill : Nat,
    line = p.key ++ spaces gap ++ p.format.tag ++ spaces fill ++
      currentText p.value p.shownUnits ∧
    Text.width (p.key ++ spaces gap).toList = tagColumn ∧
    Text.width (p.key ++ spaces gap ++ p.format.tag ++ spaces fill).toList = valueColumn

/-- As many spaces stand before the first other character. -/
theorem replicate_append_inj {n m : Nat} {c d : Char} {cs ds : List Char} (hc : c ≠ ' ')
    (hd : d ≠ ' ') (h : List.replicate n ' ' ++ c :: cs = List.replicate m ' ' ++ d :: ds) :
    n = m := by
  induction n generalizing m with
  | zero =>
      cases m with
      | zero => rfl
      | succ m => exact absurd (List.cons.inj h).1 hc
  | succ n ih =>
      cases m with
      | zero => exact absurd (List.cons.inj h).1.symm hd
      | succ m => rw [ih (List.cons.inj h).2]

/-- A line shows the tag and the value at one column each. -/
theorem ShowsAt.unique {p : Parameter} {tag value tag' value' : Nat} {line : String}
    (h : ShowsAt p tag value line) (h' : ShowsAt p tag' value' line) :
    tag = tag' ∧ value = value' := by
  obtain ⟨gap, fill, hline, rfl, rfl⟩ := h
  obtain ⟨gap', fill', hline', rfl, rfl⟩ := h'
  obtain ⟨c, cs, htag, hc⟩ := p.format.exists_tag_eq
  have hchars := congrArg String.toList (hline.symm.trans hline')
  simp only [String.toList_append, List.append_assoc, toList_spaces, htag,
    List.cons_append] at hchars
  obtain rfl : gap = gap' := replicate_append_inj hc hc (List.append_cancel_left hchars)
  have hrest := congrArg List.length hchars
  simp only [List.length_append, List.length_cons, List.length_replicate] at hrest
  obtain rfl : fill = fill' := by omega
  exact ⟨rfl, rfl⟩

/-- The column behind the widest key, as the report counts it, and two spaces. -/
def tagColumn (sheet : Sheet) (p : Parameter) : Nat :=
  Text.width p.key.toList + (sheet.keyWidth - p.key.length) + 2

theorem spaces_append (n m : Nat) : spaces n ++ spaces m = spaces (n + m) := by
  rw [spaces, spaces, ← String.ofList_append, List.replicate_append_replicate]
  rfl

theorem padTo_append_spaces (width : Nat) (s : String) :
    padTo width s ++ "  " = s ++ spaces (width - s.length + 2) := by
  rw [← spaces_append, ← String.append_assoc]
  rfl

theorem width_append_spaces (s : String) (n : Nat) :
    Text.width (s ++ spaces n).toList = Text.width s.toList + n := by
  rw [String.toList_append, Text.width_append_of_isPlain _ fun c hc => isPlain_of_mem_spaces hc,
    toList_spaces, List.length_replicate]

/-- A line with the spaces behind its key and behind its tag counted. -/
theorem reportLine_eq (width : Nat) (p : Parameter) :
    reportLine width p =
      p.key ++ spaces (width - p.key.length + 2) ++ p.format.tag ++
        spaces (formatWidth - p.format.tag.length + 2) ++ currentText p.value p.shownUnits := by
  have hline : reportLine width p =
      (padTo width p.key ++ "  ") ++ (padTo formatWidth p.format.tag ++ "  ") ++
        currentText p.value p.shownUnits := by
    simp only [reportLine, String.append_assoc]
  rw [hline, padTo_append_spaces, padTo_append_spaces, ← String.append_assoc]

/-- Where the line of a parameter shows its tag and its value. -/
theorem showsAt_reportLine (sheet : Sheet) (p : Parameter) :
    ShowsAt p (sheet.tagColumn p) (sheet.tagColumn p + formatWidth + 2)
      (reportLine sheet.keyWidth p) := by
  refine ⟨sheet.keyWidth - p.key.length + 2, formatWidth - p.format.tag.length + 2,
    reportLine_eq sheet.keyWidth p, ?_, ?_⟩
  · rw [width_append_spaces, tagColumn, Nat.add_assoc]
  · have hlength := p.format.length_tag_le
    rw [width_append_spaces, String.toList_append,
      Text.width_append_of_isPlain _ p.format.isPlain_of_mem_tag, width_append_spaces,
      String.length_toList, tagColumn]
    omega

/-! ## Keys that line up -/

theorem length_le_utf8ByteSize (s : String) : s.length ≤ s.utf8ByteSize := by
  rw [← String.length_toList, ← String.utf8Len_toList]
  induction s.toList with
  | nil => exact Nat.le_refl 0
  | cons c cs ih => exact Nat.add_le_add ih c.utf8Size_pos

theorem le_foldl_max {n start : Nat} {ns : List Nat} (h : n ≤ start ∨ n ∈ ns) :
    n ≤ ns.foldl max start := by
  induction ns generalizing start with
  | nil => exact h.elim id fun hmem => nomatch hmem
  | cons m ns ih =>
      rw [List.foldl_cons]
      apply ih
      rcases h with hle | hmem
      · exact .inl (hle.trans (Nat.le_max_left start m))
      · rcases List.mem_cons.mp hmem with rfl | hmem
        · exact .inl (Nat.le_max_right start n)
        · exact .inr hmem

/-- No key has more characters than the longest one has bytes. -/
theorem length_key_le {sheet : Sheet} {p : Parameter} (h : p ∈ sheet.parameters) :
    p.key.length ≤ sheet.keyWidth := by
  have hbytes : p.key.utf8ByteSize ≤ sheet.keyWidth :=
    le_foldl_max (.inr (List.mem_map_of_mem h))
  exact (length_le_utf8ByteSize p.key).trans hbytes

/-- The tags of the formats and the current values stand in one column each on the lines of a
report. -/
def LinesUp (sheet : Sheet) : Prop :=
  ∃ tagColumn valueColumn,
    List.Forall₂ (fun p line => ShowsAt p tagColumn valueColumn line) sheet.parameters
      sheet.report

theorem forall₂_report_iff {sheet : Sheet} {r : Parameter → String → Prop} :
    List.Forall₂ r sheet.parameters sheet.report ↔
      ∀ p ∈ sheet.parameters, r p (reportLine sheet.keyWidth p) := by
  rw [report, List.forall₂_map_right_iff, List.forall₂_same]

/-- Lines that line up have their tags where each of them has it. -/
theorem LinesUp.tagColumn_eq {sheet : Sheet} (h : sheet.LinesUp) {p q : Parameter}
    (hp : p ∈ sheet.parameters) (hq : q ∈ sheet.parameters) :
    sheet.tagColumn p = sheet.tagColumn q := by
  obtain ⟨tag, value, hlines⟩ := h
  have hshows := forall₂_report_iff.mp hlines
  have htag := ((sheet.showsAt_reportLine p).unique (hshows p hp)).1
  have htag' := ((sheet.showsAt_reportLine q).unique (hshows q hq)).1
  exact htag.trans htag'.symm

theorem linesUp_of_tagColumn_eq {sheet : Sheet}
    (h : ∀ p ∈ sheet.parameters, ∀ q ∈ sheet.parameters, sheet.tagColumn p = sheet.tagColumn q) :
    sheet.LinesUp := by
  cases hparameters : sheet.parameters with
  | nil =>
      refine ⟨0, 0, forall₂_report_iff.mpr ?_⟩
      rw [hparameters]
      exact List.forall_mem_nil _
  | cons first rest =>
      have hfirst : first ∈ sheet.parameters := hparameters ▸ List.mem_cons_self
      refine ⟨sheet.tagColumn first, sheet.tagColumn first + formatWidth + 2,
        forall₂_report_iff.mpr fun p hp => ?_⟩
      rw [h first hfirst p hp]
      exact sheet.showsAt_reportLine p

/-- Plain keys line up. -/
theorem linesUp_of_isPlain {sheet : Sheet}
    (h : ∀ p ∈ sheet.parameters, ∀ c ∈ p.key.toList, Text.IsPlain c) : sheet.LinesUp := by
  have hcolumn : ∀ p ∈ sheet.parameters, sheet.tagColumn p = sheet.keyWidth + 2 := by
    intro p hp
    have hlength := length_key_le hp
    rw [tagColumn, Text.width_of_isPlain (h p hp), String.length_toList]
    omega
  exact linesUp_of_tagColumn_eq fun p hp q hq => (hcolumn p hp).trans (hcolumn q hq).symm

end Sheet
end DevicePanel
