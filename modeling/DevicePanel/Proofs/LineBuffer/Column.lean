import DevicePanel.LineBuffer
import Mathlib.Data.List.Infix

/-!
# The character under a column

A move to a column steps over the characters that begin before it, so it ends before the
first character that begins at the column or behind it.  That is the character which covers
the column only if that one begins just there: a wide character is passed by a column
within it, and a mark without columns is met before the character that comes next.
-/

namespace DevicePanel
namespace LineBuffer

open Text (columns totalColumns)

/-! ## Where a move to a column ends -/

/-- The characters before the cursor begin before the column, and the one behind the cursor
does not. -/
structure MeetsColumn (b : LineBuffer) (column : Nat) : Prop where
  before : ∀ c cs, b.before = c :: cs → totalColumns cs < column
  after : b.after ≠ [] → column ≤ b.cursorColumns

theorem meetsColumn_advanceColumns (column : Nat) {before : List Char} (after : List Char)
    (hbefore : ∀ c cs, before = c :: cs → totalColumns cs < column) :
    (advanceColumns before column after (totalColumns before)).MeetsColumn column := by
  induction after generalizing before with
  | nil => exact ⟨hbefore, fun h => absurd rfl h⟩
  | cons c after ih =>
      rw [advanceColumns]
      split
      · next hreached => exact ⟨hbefore, fun _ => hreached⟩
      · next hshort =>
          rw [Nat.add_comm, ← Text.totalColumns_cons]
          apply ih
          intro d cs h
          obtain ⟨-, rfl⟩ := List.cons.inj h
          exact Nat.not_le.mp hshort

theorem meetsColumn_moveToColumn (b : LineBuffer) (column : Nat) :
    (b.moveToColumn column).MeetsColumn column := by
  have hstart : ∀ c cs, ([] : List Char) = c :: cs → totalColumns cs < column := by
    intro c cs h
    cases h
  exact meetsColumn_advanceColumns column b.toList hstart

/-- A move to a column steps over characters that begin before it. -/
theorem advanceColumns_append {column : Nat} {before passed after : List Char}
    (hpassed : passed ≠ [] → totalColumns before + totalColumns passed.dropLast < column)
    (hafter : after ≠ [] → column ≤ totalColumns before + totalColumns passed) :
    advanceColumns before column (passed ++ after) (totalColumns before) =
      ⟨passed.reverse ++ before, after⟩ := by
  induction passed generalizing before with
  | nil =>
      cases after with
      | nil => rfl
      | cons c after =>
          rw [List.nil_append, advanceColumns, if_pos (by simpa using hafter)]
          rfl
  | cons c passed ih =>
      have hshort : ¬column ≤ totalColumns before := by
        have := hpassed (List.cons_ne_nil c passed)
        omega
      rw [List.cons_append, advanceColumns, if_neg hshort, Nat.add_comm, ← Text.totalColumns_cons,
        ih]
      · simp
      · intro hne
        have := hpassed (List.cons_ne_nil c passed)
        rw [List.dropLast_cons_of_ne_nil hne, Text.totalColumns_cons] at this
        rw [Text.totalColumns_cons]
        omega
      · intro hne
        have := hafter hne
        simp only [Text.totalColumns_cons] at this ⊢
        omega

theorem moveToColumn_append {b : LineBuffer} {column : Nat} {passed after : List Char}
    (hb : b.toList = passed ++ after)
    (hpassed : passed ≠ [] → totalColumns passed.dropLast < column)
    (hafter : after ≠ [] → column ≤ totalColumns passed) :
    b.moveToColumn column = ⟨passed.reverse, after⟩ := by
  have h : advanceColumns [] column (passed ++ after) (totalColumns []) =
      ⟨passed.reverse ++ [], after⟩ :=
    advanceColumns_append (by simpa using hpassed) (by simpa using hafter)
  rwa [← hb, List.append_nil] at h

/-! ## The column of the cursor -/

/-- A move to the column of the cursor steps back over characters without columns at most. -/
theorem exists_before_eq (b : LineBuffer) :
    ∃ marks, b.before = marks ++ (b.moveToColumn b.cursorColumns).before ∧
      ∀ c ∈ marks, columns c = 0 := by
  have hmeets := b.meetsColumn_moveToColumn b.cursorColumns
  have htext := b.toList_moveToColumn b.cursorColumns
  generalize b.moveToColumn b.cursorColumns = m at hmeets htext ⊢
  -- Both cursors are in the same text, so one of them is behind the other or at it.
  rcases List.append_eq_append_iff.mp htext with ⟨passed, hbefore, hafter⟩ | ⟨passed, hbefore, -⟩
  · have hsplit : b.before = passed.reverse ++ m.before := by
      rw [← List.reverse_inj, hbefore, List.reverse_append, List.reverse_reverse]
    refine ⟨passed.reverse, hsplit, ?_⟩
    intro c hc
    have hne : m.after ≠ [] := by
      rw [hafter]
      exact List.append_ne_nil_of_left_ne_nil (List.ne_nil_of_mem (List.mem_reverse.mp hc)) _
    have hreached := hmeets.after hne
    have hzero : totalColumns passed.reverse = 0 := by
      rw [cursorColumns, cursorColumns, hsplit, Text.totalColumns_append] at hreached
      omega
    exact (Text.totalColumns_eq_zero_iff _).mp hzero c hc
  · have hsplit : m.before = passed.reverse ++ b.before := by
      rw [← List.reverse_inj, hbefore, List.reverse_append, List.reverse_reverse]
    cases hpassed : passed.reverse with
    | nil =>
        rw [hpassed, List.nil_append] at hsplit
        exact ⟨[], hsplit.symm, fun c hc => absurd hc List.not_mem_nil⟩
    | cons c rest =>
        rw [hpassed, List.cons_append] at hsplit
        have hshort := hmeets.before c _ hsplit
        rw [cursorColumns, Text.totalColumns_append] at hshort
        omega

/-! ## Covered columns -/

/-- The character behind the cursor covers the column. -/
def Covers (b : LineBuffer) (column : Nat) : Prop :=
  b.cursorColumns ≤ column ∧
    ∃ c rest, b.after = c :: rest ∧ column < b.cursorColumns + columns c

/-- The last character has columns of its own. -/
def EndsVisibly (cs : List Char) : Prop := ∀ c, cs.getLast? = some c → 0 < columns c

theorem totalColumns_dropLast_le (cs : List Char) : totalColumns cs.dropLast ≤ totalColumns cs := by
  obtain ⟨last, hlast⟩ := List.dropLast_prefix cs
  conv_rhs => rw [← hlast, Text.totalColumns_append]
  exact Nat.le_add_right _ _

theorem EndsVisibly.totalColumns_dropLast_lt {cs : List Char} (h : EndsVisibly cs)
    (hne : cs ≠ []) : totalColumns cs.dropLast < totalColumns cs := by
  have hlast : 0 < columns (cs.getLast hne) := h _ (List.getLast?_eq_some_getLast hne)
  conv_rhs => rw [← List.dropLast_concat_getLast hne, Text.totalColumns_append]
  simpa using hlast

/-- What a move to a column has passed ends visibly if it ends at the column. -/
theorem MeetsColumn.endsVisibly {b : LineBuffer} {column : Nat} (h : b.MeetsColumn column)
    (hcolumn : b.cursorColumns = column) : EndsVisibly b.before.reverse := by
  intro c hc
  rw [List.getLast?_reverse] at hc
  obtain ⟨cs, hbefore⟩ := List.head?_eq_some_iff.mp hc
  have hshort := h.before c cs hbefore
  rw [cursorColumns, hbefore, Text.totalColumns_cons] at hcolumn
  omega

theorem covers_iff (b : LineBuffer) (column : Nat) :
    (b.moveToColumn column).Covers column ↔
      ∃ left c right, b.toList = left ++ c :: right ∧ totalColumns left = column ∧
        0 < columns c ∧ EndsVisibly left := by
  constructor
  · rintro ⟨hle, c, right, hafter, hlt⟩
    have hmeets := b.meetsColumn_moveToColumn column
    have hcolumn : (b.moveToColumn column).cursorColumns = column :=
      Nat.le_antisymm hle (hmeets.after (by simp [hafter]))
    refine ⟨(b.moveToColumn column).before.reverse, c, right, ?_, ?_, ?_, ?_⟩
    · rw [← b.toList_moveToColumn column, toList, hafter]
    · rw [Text.totalColumns_reverse]
      exact hcolumn
    · omega
    · exact hmeets.endsVisibly hcolumn
  · rintro ⟨left, c, right, hb, hleft, hc, hvisible⟩
    have hmove : b.moveToColumn column = ⟨left.reverse, c :: right⟩ := by
      apply moveToColumn_append hb
      · intro hne
        exact hleft ▸ hvisible.totalColumns_dropLast_lt hne
      · intro _
        exact hleft.ge
    have hcursor : (b.moveToColumn column).cursorColumns = column := by
      rw [hmove, cursorColumns, Text.totalColumns_reverse, hleft]
    refine ⟨hcursor.le, c, right, ?_, ?_⟩
    · rw [hmove]
    · omega

theorem after_eq_nil_iff {b : LineBuffer} {column : Nat} (h : totalColumns b.toList ≤ column) :
    (b.moveToColumn column).after = [] ↔
      totalColumns b.toList < column ∨ EndsVisibly b.toList := by
  constructor
  · intro hafter
    have hbefore : (b.moveToColumn column).before.reverse = b.toList := by
      rw [← b.toList_moveToColumn column, toList, hafter, List.append_nil]
    rcases Nat.lt_or_eq_of_le h with hlt | heq
    · exact .inl hlt
    · right
      rw [← hbefore]
      apply (b.meetsColumn_moveToColumn column).endsVisibly
      rw [cursorColumns, ← Text.totalColumns_reverse, hbefore, heq]
  · intro hend
    rw [moveToColumn_append (List.append_nil b.toList).symm]
    · intro hne
      rcases hend with hlt | hvisible
      · exact (totalColumns_dropLast_le b.toList).trans_lt hlt
      · exact (hvisible.totalColumns_dropLast_lt hne).trans_le h
    · intro hne
      exact absurd rfl hne

/-- A move to a column ends before the first character that begins at the column or behind
it.  That character covers the column exactly if a visible character begins at the column and
the text before it ends with a visible one.  A column behind the text leads to the end of the
text, unless the column is just behind it and its last character has no columns. -/
theorem column_is_covered_iff (b : LineBuffer) (column : Nat) :
    (b.moveToColumn column).toList = b.toList ∧
    (b.moveToColumn column).MeetsColumn column ∧
    (column < totalColumns b.toList →
      ((b.moveToColumn column).Covers column ↔
        ∃ left c right, b.toList = left ++ c :: right ∧ totalColumns left = column ∧
          0 < columns c ∧ EndsVisibly left)) ∧
    (totalColumns b.toList ≤ column →
      ((b.moveToColumn column).after = [] ↔
        totalColumns b.toList < column ∨ EndsVisibly b.toList)) := by
  refine ⟨b.toList_moveToColumn column, b.meetsColumn_moveToColumn column, ?_, ?_⟩
  · intro _
    exact b.covers_iff column
  · intro hbehind
    exact after_eq_nil_iff hbehind

/-- Two wide characters: the second one begins at its column, and the text ends visibly. -/
theorem column_is_covered_iff_wide :
    let b := ofText "日本"
    (2 < totalColumns b.toList ∧ (b.moveToColumn 2).Covers 2) ∧
      totalColumns b.toList ≤ 4 ∧ (b.moveToColumn 4).after = [] := by
  intro b
  have hwidth : totalColumns b.toList = 4 := by decide +kernel
  have hvisible : EndsVisibly ['日'] := by
    intro c hc
    obtain rfl := Option.some.inj hc
    decide +kernel
  have hend : EndsVisibly b.toList := by
    intro c hc
    obtain rfl := Option.some.inj hc
    decide +kernel
  have hinside : 2 < totalColumns b.toList := hwidth ▸ (by decide)
  obtain ⟨-, -, hcovers, -⟩ := column_is_covered_iff b 2
  obtain ⟨-, -, -, hbehind⟩ := column_is_covered_iff b 4
  refine ⟨⟨hinside, (hcovers hinside).mpr ?_⟩, hwidth.le, (hbehind hwidth.le).mpr (.inr hend)⟩
  exact ⟨['日'], '本', [], by decide +kernel, by decide +kernel, by decide +kernel, hvisible⟩

/-- A column within a wide character leads behind it. -/
theorem wide_character_is_passed :
    let b := ofText "日本"
    1 < totalColumns b.toList ∧ (b.moveToColumn 1).cursorColumns = 2 ∧
      ¬(b.moveToColumn 1).Covers 1 := by
  intro b
  have hcolumns : (b.moveToColumn 1).cursorColumns = 2 := by decide +kernel
  refine ⟨by decide +kernel, hcolumns, ?_⟩
  rintro ⟨hle, -⟩
  rw [hcolumns] at hle
  exact absurd hle (by decide)

end LineBuffer
end DevicePanel
