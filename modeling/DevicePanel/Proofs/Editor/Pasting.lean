import DevicePanel.Proofs.Editor.Change
import DevicePanel.Proofs.Editor.Typing
import DevicePanel.Proofs.LineBuffer.Refinement

/-!
# Pasting and typing

A pasted text goes into a field at once, and its cursor steps over all of its bytes.  The
keys of its characters put them in one by one.  Both leave the same draft, wherever the
cursor was and whatever had been entered before, unless nothing is left of the text without
its line breaks: such a paste still counts as an edit, and no key is pressed for it.
-/

namespace DevicePanel

namespace LineBuffer

theorem insertAll_cons (b : LineBuffer) (c : Char) (cs : List Char) :
    b.insertAll (c :: cs) = (b.insert c).insertAll cs := by
  simp [insertAll, insert]

/-- With a byte cursor too, inserting characters one by one does what inserting their text
does. -/
theorem foldlM_insert_indexed (b : LineBuffer) (cs : List Char) :
    (cs.map LineOp.insert).foldlM IndexedLine.apply b.indexed =
      b.indexed.apply (.insertText (String.ofList cs)) := by
  induction cs generalizing b with
  | nil =>
      rw [apply_indexed]
      rfl
  | cons c cs ih =>
      calc
        ((c :: cs).map LineOp.insert).foldlM IndexedLine.apply b.indexed
          = (cs.map LineOp.insert).foldlM IndexedLine.apply (b.insert c).indexed := by
            rw [List.map_cons, List.foldlM_cons, apply_indexed]
            rfl
        _ = (b.insert c).indexed.apply (.insertText (String.ofList cs)) := ih (b.insert c)
        _ = b.indexed.apply (.insertText (String.ofList (c :: cs))) := by
            rw [apply_indexed, apply_indexed, apply, apply, String.toList_ofList,
              String.toList_ofList, insertAll_cons]

end LineBuffer

namespace Draft

variable {p : EditorProps} {focus : EditorFocus}

/-- The draft after some keys, and the values that they give. -/
def press (d : Draft) (p : EditorProps) (focus : EditorFocus) :
    List KeyEvent → Draft × List Value
  | [] => (d, [])
  | e :: es =>
      let (d, value) := d.key p focus e
      let (d, values) := d.press p focus es
      (d, value.toList ++ values)

/-- The keys of some characters, without modifiers. -/
def presses (cs : List Char) : List KeyEvent := cs.map fun c => .plain (.char c)

/-- While the link is up, the keys of characters other than controls insert them into a text
whose button does not have the focus, and give no value. -/
theorem press_presses (up : p.connected = true) (field : focus.confirm = false)
    {cs : List Char} (hcs : ∀ c ∈ cs, Text.isControl c = false) (t : TextDraft) :
    (Draft.text t).press p focus (presses cs) = (.text (t.typed cs), []) := by
  induction cs generalizing t with
  | nil => rfl
  | cons c cs ih =>
      have hkey : (Draft.text t).key p focus (.plain (.char c)) =
          (.text (t.edit (·.insert c)), none) := by
        rw [key, up, ← fieldKey_char (hcs c List.mem_cons_self) t]
        simp [textKey, field, KeyEvent.plain, KeyEvent.isCommand]
      have hrest := ih (fun c' hc' => hcs c' (List.mem_cons_of_mem c hc')) (t.edit (·.insert c))
      rw [presses, List.map_cons, press, hkey]
      dsimp only
      rw [← presses, hrest]
      rfl

/-- What a paste keeps of a text are the characters other than line breaks. -/
theorem mem_pastedChars_iff {s : String} {c : Char} :
    c ∈ pastedChars s ↔ c ∈ s.toList ∧ ¬ IsLineBreak c := by
  simp [pastedChars, IsLineBreak]

/-- A paste into a field is an edit. -/
theorem paste_text (up : p.connected = true) (field : focus.confirm = false) (t : TextDraft)
    (s : String) :
    (Draft.text t).paste p focus s = .text (t.edit (·.insertAll (pastedChars s))) := by
  simp [paste, up, field]

/-- A text without controls other than line breaks, and with more than these, leaves the same
draft when it is pasted into a field as when the keys of its other characters are pressed, and
these give no value.  With a byte cursor the line is the same after both, too.  A switch, a
text whose button has the focus, and every draft while the link is down stay as they are. -/
theorem paste_is_typing (p : EditorProps) (focus : EditorFocus) (s : String) :
    (∀ t, p.connected = true → focus.confirm = false →
      (∀ c ∈ s.toList, Text.isControl c = true → IsLineBreak c) →
      (∃ c ∈ s.toList, ¬ IsLineBreak c) →
        let cs := s.toList.filter fun c => c != '\n' && c != '\r'
        (Draft.text t).press p focus (presses cs) = ((Draft.text t).paste p focus s, []) ∧
        ∃ t', (Draft.text t).paste p focus s = .text t' ∧
          t.buffer.indexed.apply (.insertText (String.ofList cs)) = some t'.buffer.indexed ∧
          (cs.map LineOp.insert).foldlM IndexedLine.apply t.buffer.indexed =
            some t'.buffer.indexed) ∧
    ∀ d : Draft, d.isSwitch = true ∨ focus.confirm = true ∨ p.connected = false →
      d.paste p focus s = d := by
  constructor
  · intro t up field hcontrols hmore cs
    have hcs : cs = pastedChars s := rfl
    have hprintable : ∀ c ∈ pastedChars s, Text.isControl c = false := by
      intro c hc
      obtain ⟨hmem, hline⟩ := mem_pastedChars_iff.mp hc
      exact Bool.eq_false_iff.mpr fun hcontrol => hline (hcontrols c hmem hcontrol)
    have hsome : pastedChars s ≠ [] := by
      obtain ⟨c, hmem, hline⟩ := hmore
      exact List.ne_nil_of_mem (mem_pastedChars_iff.mpr ⟨hmem, hline⟩)
    have hindexed : t.buffer.indexed.apply (.insertText (String.ofList (pastedChars s))) =
        some (t.buffer.insertAll (pastedChars s)).indexed := by
      rw [LineBuffer.apply_indexed, LineBuffer.apply, String.toList_ofList]
    rw [hcs, press_presses up field hprintable, TextDraft.typed_eq_edit hsome,
      paste_text up field]
    exact ⟨rfl, _, rfl, hindexed, (t.buffer.foldlM_insert_indexed _).trans hindexed⟩
  · intro d h
    cases d with
    | switch on => rfl
    | text t =>
        rcases h with hswitch | hbutton | hdown
        · cases hswitch
        · simp [paste, hbutton]
        · simp [paste, hdown]

/-- Two lines with characters of several bytes are pasted into the middle of a rejected text,
and over a switch. -/
theorem paste_is_typing_two_lines :
    let p : EditorProps := { committed := none, format := .number }
    let t : TextDraft := { buffer := ⟨['4'], ['2']⟩, edited := true, error := some .emptyInput }
    let t' : TextDraft := { buffer := ⟨['é', '日', '4'], ['2']⟩, edited := true }
    p.connected = true ∧ (∀ c ∈ "日\r\né".toList, Text.isControl c = true → IsLineBreak c) ∧
      (∃ c ∈ "日\r\né".toList, ¬ IsLineBreak c) ∧
      (Draft.text t).press p ⟨true, false⟩ (presses ['日', 'é']) = (.text t', []) ∧
      (Draft.switch true).paste p ⟨true, false⟩ "日\r\né" = .switch true := by
  intro p t t'
  have hcontrols : ∀ c ∈ "日\r\né".toList, Text.isControl c = true → IsLineBreak c := by
    intro c hc
    have hcases : c = '日' ∨ c = '\r' ∨ c = '\n' ∨ c = 'é' := by simpa using hc
    rcases hcases with rfl | rfl | rfl | rfl
    · intro h
      cases h
    · exact fun _ => .inr rfl
    · exact fun _ => .inl rfl
    · intro h
      cases h
  have hmore : ∃ c ∈ "日\r\né".toList, ¬ IsLineBreak c :=
    ⟨'日', by decide, by rintro (h | h) <;> cases h⟩
  obtain ⟨htyped, hkept⟩ := paste_is_typing p ⟨true, false⟩ "日\r\né"
  obtain ⟨hpress, -⟩ := htyped t rfl rfl hcontrols hmore
  exact ⟨rfl, hcontrols, hmore, hpress, hkept (.switch true) (.inl rfl)⟩

end Draft

end DevicePanel
