import DevicePanel.Proofs.Text.Cut

/-!
# Byte cursors and line buffers

A line buffer has one text with a byte cursor: its characters in a row, and the bytes of
those before the cursor.  On such lines every operation with a byte cursor succeeds and
gives the line of the buffer after the same operation.  So no run from the empty line ever
fails, its cursor is always between two characters, and the line reads as the buffer that
the run would have made.
-/

namespace DevicePanel

open String (utf8Len)

namespace LineBuffer

/-- The text of a buffer and the bytes before its cursor. -/
def indexed (b : LineBuffer) : IndexedLine := ⟨b.text, b.cursor⟩

theorem cursor_eq (b : LineBuffer) : b.cursor = utf8Len b.before.reverse := by
  rw [cursor, Text.byteLength_eq, String.utf8Len_reverse]

theorem parts?_indexed (b : LineBuffer) :
    b.indexed.parts? = some (String.ofList b.before.reverse, String.ofList b.after) := by
  rw [IndexedLine.parts?, indexed, cursor_eq]
  exact Text.cut?_append b.before.reverse b.after

theorem toBuffer?_indexed (b : LineBuffer) : b.indexed.toBuffer? = some b := by
  simp [IndexedLine.toBuffer?, parts?_indexed]

theorem back?_before (b : LineBuffer) :
    (String.ofList b.before.reverse).back? = b.before.head? := by
  rw [String.back?_eq, String.toList_ofList, List.getLast?_reverse]

theorem front?_after (b : LineBuffer) : (String.ofList b.after).front? = b.after.head? := by
  rw [String.front?_eq, String.toList_ofList]

/-! ## Moves -/

theorem moveLeft_indexed (b : LineBuffer) : b.indexed.moveLeft = some b.moveLeft.indexed := by
  simp only [IndexedLine.moveLeft, parts?_indexed, Option.bind_eq_bind, Option.bind_some,
    back?_before]
  rcases b with ⟨before, after⟩
  cases before with
  | nil => rfl
  | cons c before => simp [moveLeft, indexed, cursor_eq, Text.stepBack?_add, text, toList]

theorem moveRight_indexed (b : LineBuffer) :
    b.indexed.moveRight = some b.moveRight.indexed := by
  simp only [IndexedLine.moveRight, parts?_indexed, Option.bind_eq_bind, Option.bind_some,
    front?_after]
  rcases b with ⟨before, after⟩
  cases after with
  | nil => rfl
  | cons c after => simp [moveRight, indexed, cursor_eq, text, toList]

theorem moveHome_indexed (b : LineBuffer) :
    { b.indexed with cursor := 0 } = b.moveHome.indexed := by
  simp [moveHome, indexed, cursor_eq, text, toList]

theorem moveEnd_indexed (b : LineBuffer) :
    { b.indexed with cursor := b.indexed.text.utf8ByteSize } = b.moveEnd.indexed := by
  simp [moveEnd, indexed, cursor_eq, text, toList, String.utf8ByteSize_ofList]

/-! ## Moves to a place -/

/-- Stepping over characters ends at the greatest place to cut within the bytes. -/
theorem isGreatest_advanceBytes (before after : List Char) (bytes : Nat) :
    IsGreatest {m | m ≤ utf8Len before + bytes ∧
        String.Pos.Raw.IsValid (String.ofList (before.reverse ++ after)) ⟨m⟩}
      (advanceBytes before after bytes).cursor := by
  induction after generalizing before bytes with
  | nil =>
      have hplace := Text.isValid_utf8Len before.reverse []
      rw [advanceBytes, cursor_eq]
      refine ⟨⟨?_, hplace⟩, ?_⟩
      · simp
      · intro m hm
        simpa [String.utf8ByteSize_ofList] using hm.2.le_utf8ByteSize
  | cons c after ih =>
      rw [advanceBytes]
      split
      · next hfits =>
          have hstep := ih (c :: before) (bytes - c.utf8Size)
          have hbytes : utf8Len (c :: before) + (bytes - c.utf8Size) = utf8Len before + bytes := by
            rw [String.utf8Len_cons]
            omega
          rw [hbytes, List.reverse_cons, List.append_assoc, List.singleton_append] at hstep
          exact hstep
      · next hfull =>
          rw [cursor_eq]
          refine ⟨⟨?_, Text.isValid_utf8Len _ _⟩, ?_⟩
          · simp
          · rintro m ⟨hm, hvalid⟩
            have hsize := Text.le_or_le_of_isValid hvalid
            simp only [String.utf8Len_reverse] at hsize ⊢
            omega

theorem isGreatest_moveToByte (b : LineBuffer) (bytes : Nat) :
    IsGreatest {m | m ≤ bytes ∧ String.Pos.Raw.IsValid b.text ⟨m⟩}
      (b.moveToByte bytes).cursor := by
  have h := isGreatest_advanceBytes [] b.toList bytes
  simpa [moveToByte, text] using h

theorem moveToByte_indexed (b : LineBuffer) (bytes : Nat) :
    b.indexed.moveToByte bytes = some (b.moveToByte bytes).indexed := by
  obtain ⟨place, hplace, hgreatest⟩ :=
    Text.isGreatest_lastPlace b.text (min bytes b.text.utf8ByteSize)
  rw [Text.places_min_eq] at hgreatest
  have hcursor : place = (b.moveToByte bytes).cursor :=
    hgreatest.unique (b.isGreatest_moveToByte bytes)
  have htext : (b.moveToByte bytes).text = b.text := by
    rw [text, toList_moveToByte, text]
  simp [IndexedLine.moveToByte, indexed, hplace, hcursor, htext]

theorem cursor_advanceColumns (before after : List Char) (column passed : Nat) :
    (advanceColumns before column after passed).cursor =
      (Text.columnPlace? column after passed (utf8Len before)).getD
        (utf8Len before + utf8Len after) := by
  induction after generalizing before passed with
  | nil => simp [advanceColumns, Text.columnPlace?, cursor_eq]
  | cons c after ih =>
      rw [advanceColumns, Text.columnPlace?]
      split
      · simp [cursor_eq]
      · rw [ih, String.utf8Len_cons, String.utf8Len_cons]
        congr 1
        omega

theorem moveToColumn_indexed (b : LineBuffer) (column : Nat) :
    b.indexed.moveToColumn column = (b.moveToColumn column).indexed := by
  have hcursor := cursor_advanceColumns [] b.toList column 0
  simp [IndexedLine.moveToColumn, indexed, moveToColumn, hcursor, text,
    toList_advanceColumns, String.utf8ByteSize_ofList]

/-! ## Edits -/

theorem insertText_indexed (b : LineBuffer) (s : String) :
    b.indexed.insertText s = some (b.insertAll s.toList).indexed := by
  simp only [IndexedLine.insertText, parts?_indexed, Option.bind_eq_bind, Option.bind_some]
  simp [insertAll, indexed, cursor_eq, text, toList, String.append_assoc]

theorem backspace_indexed (b : LineBuffer) :
    b.indexed.backspace = some b.backspace.indexed := by
  simp only [IndexedLine.backspace, parts?_indexed, Option.bind_eq_bind, Option.bind_some,
    back?_before]
  rcases b with ⟨before, after⟩
  cases before with
  | nil => rfl
  | cons c before =>
    have hcut := Text.cutOut?_append before.reverse [c] after
    have hstart : Text.stepBack? (utf8Len before.reverse + utf8Len [c]) c.utf8Size =
        some (utf8Len before.reverse) := by
      simp [Text.stepBack?_add]
    have hline : (⟨c :: before, after⟩ : LineBuffer).indexed =
        ⟨String.ofList (before.reverse ++ ([c] ++ after)),
          utf8Len before.reverse + utf8Len [c]⟩ := by
      simp [indexed, cursor_eq, text, toList]
    simp only [hline, List.head?_cons, hstart, hcut, Option.bind_some]
    simp [backspace, indexed, cursor_eq, text, toList]

theorem delete_indexed (b : LineBuffer) : b.indexed.delete = some b.delete.indexed := by
  simp only [IndexedLine.delete, parts?_indexed, Option.bind_eq_bind, Option.bind_some,
    front?_after]
  rcases b with ⟨before, after⟩
  cases after with
  | nil => rfl
  | cons c after =>
    have hcut := Text.cutOut?_append before.reverse [c] after
    have hsize : utf8Len [c] = c.utf8Size := by simp
    have hline : (⟨before, c :: after⟩ : LineBuffer).indexed =
        ⟨String.ofList (before.reverse ++ ([c] ++ after)), utf8Len before.reverse⟩ := by
      simp [indexed, cursor_eq, text, toList]
    rw [hsize] at hcut
    simp only [hline, List.head?_cons, hcut, Option.bind_some]
    simp [delete, indexed, cursor_eq, text, toList]

/-- Every operation with a byte cursor succeeds on the line of a buffer, and gives the line
of the buffer after the operation. -/
theorem apply_indexed (b : LineBuffer) (op : LineOp) :
    b.indexed.apply op = some (b.apply op).indexed := by
  cases op with
  | setText s => simp [IndexedLine.apply, apply, ofText, indexed, cursor_eq, text, toList]
  | moveToByte bytes => exact b.moveToByte_indexed bytes
  | moveToColumn column => exact congrArg some (b.moveToColumn_indexed column)
  | clear => rfl
  | moveLeft => exact b.moveLeft_indexed
  | moveRight => exact b.moveRight_indexed
  | moveHome => exact congrArg some b.moveHome_indexed
  | moveEnd => exact congrArg some b.moveEnd_indexed
  | insert c =>
    have h := b.insertText_indexed (String.singleton c)
    rwa [String.toList_singleton] at h
  | insertText s => exact b.insertText_indexed s
  | backspace => exact b.backspace_indexed
  | delete => exact b.delete_indexed

/-! ## What an operation changes -/

/-- The characters that an operation takes away. -/
def removed (b : LineBuffer) : LineOp → List Char
  | .setText _ | .clear => b.toList
  | .backspace => b.before.take 1
  | .delete => b.after.take 1
  | _ => []

end LineBuffer

/-- The characters that an operation puts in. -/
def LineOp.inserted : LineOp → List Char
  | .setText s | .insertText s => s.toList
  | .insert c => [c]
  | _ => []

namespace LineBuffer

/-- Around the characters that an operation takes away and puts in, the text stays. -/
theorem exists_toList_apply (b : LineBuffer) (op : LineOp) :
    ∃ left right, b.toList = left ++ b.removed op ++ right ∧
      (b.apply op).toList = left ++ op.inserted ++ right := by
  have moves : ∀ b' : LineBuffer, b'.toList = b.toList →
      ∃ left right, b.toList = left ++ [] ++ right ∧ b'.toList = left ++ [] ++ right := by
    intro b' h
    exact ⟨b.toList, [], by simp, by simp [h]⟩
  cases op with
  | setText s => exact ⟨[], [], by simp [removed], by simp [apply, ofText, toList, LineOp.inserted]⟩
  | clear => exact ⟨[], [], by simp [removed], rfl⟩
  | moveToByte bytes => exact moves _ (toList_moveToByte b bytes)
  | moveToColumn column => exact moves _ (toList_moveToColumn b column)
  | moveLeft => exact moves _ (toList_moveLeft b)
  | moveRight => exact moves _ (toList_moveRight b)
  | moveHome => exact moves _ (toList_moveHome b)
  | moveEnd => exact moves _ (toList_moveEnd b)
  | insert c =>
    exact ⟨b.before.reverse, b.after, by simp [removed, toList],
      by simp [apply, insert, toList, LineOp.inserted]⟩
  | insertText s =>
    exact ⟨b.before.reverse, b.after, by simp [removed, toList],
      by simp [apply, insertAll, toList, LineOp.inserted]⟩
  | backspace =>
    refine ⟨(b.before.drop 1).reverse, b.after, ?_, by simp [apply, backspace, toList,
      LineOp.inserted]⟩
    rcases b with ⟨_ | ⟨c, before⟩, after⟩ <;> simp [removed, toList]
  | delete =>
    refine ⟨b.before.reverse, b.after.drop 1, ?_, by simp [apply, delete, toList,
      LineOp.inserted]⟩
    rcases b with ⟨before, _ | ⟨c, after⟩⟩ <;> simp [removed, toList]

end LineBuffer

namespace IndexedLine

/-- A run with a byte cursor never fails and gives the line of the buffer after the run. -/
theorem run_eq (ops : List LineOp) : run ops = some (LineBuffer.run ops).indexed := by
  have hrun : ∀ b : LineBuffer,
      ops.foldlM apply b.indexed = some (ops.foldl LineBuffer.apply b).indexed := by
    induction ops with
    | nil =>
        intro b
        rfl
    | cons op ops ih =>
        intro b
        rw [List.foldlM_cons, b.apply_indexed op, List.foldl_cons, ← ih]
        rfl
  exact hrun .empty

/-- Whatever operations are run on an empty line with a byte cursor, none of them fails.  The
cursor is within the text and between two of its characters, and what is before and behind it
are the lists of the buffer after the same operations.  The same holds after one more
operation, which changes only what it takes away and puts in; a move to a byte ends at the
greatest place between two characters up to that byte and the end of the text. -/
theorem refines_buffer (ops : List LineOp) :
    ∃ l, run ops = some l ∧ l.toBuffer? = some (LineBuffer.run ops) ∧
      l.cursor ≤ l.text.utf8ByteSize ∧ String.Pos.Raw.IsValid l.text ⟨l.cursor⟩ ∧
      l.cursorColumns? = some (LineBuffer.run ops).cursorColumns ∧
      (∀ op, ∃ l', l.apply op = some l' ∧
        l'.toBuffer? = some ((LineBuffer.run ops).apply op) ∧
        ∃ left right, l.text.toList = left ++ (LineBuffer.run ops).removed op ++ right ∧
          l'.text.toList = left ++ op.inserted ++ right) ∧
      ∀ bytes, ∃ l', l.apply (.moveToByte bytes) = some l' ∧
        IsGreatest {m | m ≤ min bytes l.text.utf8ByteSize ∧ String.Pos.Raw.IsValid l.text ⟨m⟩}
          l'.cursor := by
  set b := LineBuffer.run ops with hb
  have hvalid : String.Pos.Raw.IsValid b.indexed.text ⟨b.indexed.cursor⟩ := by
    have h := Text.isValid_utf8Len b.before.reverse b.after
    rwa [← b.cursor_eq] at h
  refine ⟨b.indexed, run_eq ops, b.toBuffer?_indexed, hvalid.le_utf8ByteSize, hvalid, ?_, ?_, ?_⟩
  · simp [IndexedLine.cursorColumns?, LineBuffer.parts?_indexed, LineBuffer.cursorColumns]
  · intro op
    refine ⟨(b.apply op).indexed, b.apply_indexed op, (b.apply op).toBuffer?_indexed, ?_⟩
    obtain ⟨left, right, hold, hnew⟩ := b.exists_toList_apply op
    refine ⟨left, right, ?_, ?_⟩
    · simpa [LineBuffer.indexed, LineBuffer.text] using hold
    · simpa [LineBuffer.indexed, LineBuffer.text] using hnew
  · intro bytes
    refine ⟨(b.moveToByte bytes).indexed, b.apply_indexed _, ?_⟩
    rw [Text.places_min_eq]
    exact b.isGreatest_moveToByte bytes

end IndexedLine
end DevicePanel
