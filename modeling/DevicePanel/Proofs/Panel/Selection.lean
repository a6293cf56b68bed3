import DevicePanel.Panel.Draw
import DevicePanel.Proofs.Panel.Anchored

/-!
# The selection of a panel

Input turns a panel in one of three ways: it keeps the selection, it chooses an entry, or
it marks the entry under the pointer.  An entry that is chosen is selected and its field or
switch has the focus, whatever had it before.

So in every panel that starts out right the selection and the mark name entries, and where
there are entries one of them is selected.  A list that is drawn has nothing to correct
then.
-/

namespace DevicePanel
namespace Panel

/-- The entry with the index is selected, and its field or switch has the focus. -/
def IsChosen (p : Panel) (index : Nat) : Prop :=
  p.selected = some index ∧ p.focus.current = some (.editor index .input)

/-- The selection and the mark of the pointer name entries.  Where there are entries one of
them is selected; a list without entries is not scrolled. -/
structure NamesRows (p : Panel) : Prop where
  selected : ∀ i, p.selected = some i → i < p.entries.length
  isSome : p.entries ≠ [] → p.selected.isSome = true
  offset : p.entries = [] → p.offset = 0
  hovered : ∀ i, p.hovered = some i → i < p.entries.length

/-- What a list does to the selection when it is drawn into its inner area: without entries
nothing is selected, and behind the last entry it is the last one. -/
def corrected (p : Panel) (inner : Rect) : Panel :=
  if inner.isEmpty then p
  else if p.entries.isEmpty then p.select none
  else if p.selected.isSome then p.select p.selected
  else p

variable {p q : Panel}

/-! ## Choosing an entry -/

theorem select_of_nil (h : p.entries = []) (index : Option Nat) :
    p.select index = { p with selected := none, offset := 0 } := by
  cases index with
  | none => rfl
  | some i =>
      have hempty : p.entries.isEmpty = true := by rw [h, List.isEmpty_nil]
      rw [select, hempty]
      rfl

theorem select_of_ne_nil (h : p.entries ≠ []) (index : Nat) :
    p.select (some index) =
      { p with selected := some (min index (p.entries.length - 1)) } := by
  have hempty : p.entries.isEmpty = false := by simpa using h
  rw [select, hempty]
  rfl

theorem last_lt_length (h : p.entries ≠ []) (index : Nat) :
    min index (p.entries.length - 1) < p.entries.length := by
  have hpos : 0 < p.entries.length := List.length_pos_iff.mpr h
  omega

theorem focusInput_eq (p : Panel) : p.focusInput = { p with focus := p.focusInput.focus } := by
  rw [focusInput]
  split <;> rfl

/-- Choosing an entry is selecting it, as far as anything but the focus goes. -/
theorem choose_eq (p : Panel) (index : Nat) :
    p.choose index = { p.select (some index) with focus := (p.choose index).focus } :=
  focusInput_eq _

/-- The field or switch of the selected entry gets the focus in a ring that has been built
for it. -/
theorem current_focusInput {i : Nat} {e : Entry} (selected : p.selected = some i)
    (found : p.entry? = some e) (ring : p.focus.ring = p.controls) :
    p.focusInput.focus.current = some (.editor i .input) := by
  have hmem : p.focus.ring.contains (.editor i .input) = true := by
    rw [List.contains_iff_mem, ring]
    exact input_mem_controls selected (by rw [found, Option.isSome_some])
  rw [focusInput, selected, found]
  dsimp only
  rw [moveFocus, Focus.moveTo, if_pos hmem]

theorem isChosen_choose (h : p.entries ≠ []) (index : Nat) :
    (p.choose index).IsChosen (min index (p.entries.length - 1)) := by
  have hselected : (p.select (some index)).rebuildFocus.selected =
      some (min index (p.entries.length - 1)) := by
    rw [rebuildFocus, select_of_ne_nil h]
  have hfound : Panel.entry? ((p.select (some index)).rebuildFocus) =
      some (p.entries.get ⟨min index (p.entries.length - 1), last_lt_length h index⟩) := by
    rw [entry?_of_selected hselected, rebuildFocus, select_of_ne_nil h]
    exact List.getElem?_eq_getElem (last_lt_length h index)
  constructor
  · rw [choose_eq, select_of_ne_nil h]
  · exact current_focusInput hselected hfound rfl

/-! ## What input does -/

/-- What input does to the rows of a panel. -/
inductive Turn (p : Panel) : Panel → Prop
  | kept {q : Panel} (entries : q.entries.length = p.entries.length)
      (selected : q.selected = p.selected) (offset : q.offset = p.offset)
      (hovered : q.hovered = p.hovered) : Turn p q
  | chosen (index : Nat) : Turn p (p.choose index)
  | marked (index : Option Nat) : Turn p (p.hover index)

theorem turn_refl (p : Panel) : p.Turn p := .kept rfl rfl rfl rfl

theorem turn_focus (p : Panel) (f : Focus) : p.Turn { p with focus := f } :=
  .kept rfl rfl rfl rfl

theorem turn_focusInput (p : Panel) : p.Turn p.focusInput := by
  rw [focusInput_eq]
  exact p.turn_focus _

theorem turn_edit (p : Panel) (f : Focus) (g : Entry → Draft × Option Value) :
    p.Turn (edit { p with focus := f } g).1 := by
  rcases edit_cases { p with focus := f } g with hnone | ⟨i, e, -, -, hedit⟩
  · rw [hnone]
    exact p.turn_focus f
  · rw [hedit]
    exact .kept List.length_set rfl rfl rfl

theorem turn_editorKey (p : Panel) (connected : Bool) (e : KeyEvent) :
    p.Turn (p.editorKey connected e).1 := by
  rw [editorKey]
  split
  · exact p.turn_edit p.focus _
  · exact p.turn_refl

theorem turn_key (p : Panel) (connected : Bool) (e : KeyEvent) :
    p.Turn (p.key connected e).1 := by
  rw [key]
  cases e.key with
  | tab => exact p.turn_focus _
  | backTab => exact p.turn_focus _
  | up =>
      cases p.selected with
      | none => exact p.turn_refl
      | some i => exact .chosen (i - 1)
  | down =>
      cases p.selected with
      | none => exact p.turn_refl
      | some i => exact .chosen (i + 1)
  | _ =>
      dsimp only
      split
      · exact p.turn_focusInput
      · exact p.turn_editorKey connected e

theorem turn_listPress (p : Panel) (y : Nat) : p.Turn (p.listPress y) := by
  rw [listPress]
  split
  · exact .chosen _
  · exact p.turn_focus _

theorem turn_editorPress (p : Panel) (connected : Bool) (e : PointerEvent) :
    p.Turn (p.editorPress connected e).1 := by
  rw [editorPress]
  cases p.editorLayout.control? e.x e.y with
  | none => exact p.turn_refl
  | some control =>
      cases p.selected with
      | none => exact p.turn_refl
      | some i =>
          dsimp only
          split
          · exact p.turn_edit _ _
          · exact p.turn_edit p.focus _

theorem turn_pointer (p : Panel) (connected : Bool) (e : PointerEvent) :
    p.Turn (p.pointer connected e).1 := by
  rw [pointer]
  cases e.action with
  | press =>
      dsimp only
      split
      · exact p.turn_listPress e.y
      · exact p.turn_editorPress connected e
  | move => exact .marked _
  | _ => exact p.turn_refl

theorem turn_paste (p : Panel) (connected : Bool) (pasted : String) :
    p.Turn (p.paste connected pasted) := by
  rw [paste]
  split
  · exact p.turn_edit p.focus _
  · exact p.turn_refl

/-- Input that selects another entry chooses it. -/
theorem Turn.isChosen (h : p.Turn q) (nonempty : p.entries ≠ []) {j : Nat}
    (selected : q.selected = some j) (changed : p.selected ≠ some j) : q.IsChosen j := by
  cases h with
  | kept _ same _ _ => exact absurd (same.symm.trans selected) changed
  | marked index => exact absurd selected changed
  | chosen index =>
      have hchosen := isChosen_choose nonempty index
      have hj : min index (p.entries.length - 1) = j :=
        Option.some.inj (hchosen.1.symm.trans selected)
      rw [← hj]
      exact hchosen

/-! ## Rows are named -/

theorem NamesRows.congr (h : p.NamesRows) (entries : q.entries.length = p.entries.length)
    (selected : q.selected = p.selected) (offset : q.entries = [] → q.offset = p.offset)
    (hovered : q.hovered = p.hovered) : q.NamesRows := by
  have hnil : q.entries = [] ↔ p.entries = [] := by
    rw [← List.length_eq_zero_iff, entries, List.length_eq_zero_iff]
  constructor
  · rw [selected, entries]
    exact h.selected
  · rw [selected, Ne, hnil]
    exact h.isSome
  · intro hempty
    rw [offset hempty]
    exact h.offset (hnil.mp hempty)
  · rw [hovered, entries]
    exact h.hovered

theorem NamesRows.select (h : p.NamesRows) (index : Nat) :
    NamesRows (p.select (some index)) := by
  by_cases hempty : p.entries = []
  · rw [select_of_nil hempty]
    exact ⟨fun _ hi => (nomatch hi), fun hne => absurd hempty hne, fun _ => rfl, h.hovered⟩
  · rw [select_of_ne_nil hempty]
    refine ⟨?_, fun _ => rfl, h.offset, h.hovered⟩
    intro i hi
    rw [← Option.some.inj hi]
    exact last_lt_length hempty index

theorem NamesRows.hover (h : p.NamesRows) (index : Option Nat) :
    (p.hover index).NamesRows := by
  refine ⟨h.selected, h.isSome, h.offset, ?_⟩
  intro i hi
  exact of_decide_eq_true (Option.filter_eq_some_iff.mp hi).2

theorem Turn.namesRows (h : p.Turn q) (hp : p.NamesRows) : q.NamesRows := by
  cases h with
  | kept entries selected offset hovered =>
      exact hp.congr entries selected (fun _ => offset) hovered
  | marked index => exact hp.hover index
  | chosen index =>
      rw [choose_eq]
      exact (hp.select index).congr rfl rfl (fun _ => rfl) rfl

theorem namesRows_ofParameters (parameters : List Parameter) :
    (ofParameters parameters).NamesRows := by
  cases parameters with
  | nil =>
      exact ⟨fun _ hi => (nomatch hi), fun hne => absurd rfl hne, fun _ => rfl,
        fun _ hi => (nomatch hi)⟩
  | cons first rest =>
      refine ⟨?_, fun _ => rfl, fun hempty => (nomatch hempty), fun _ hi => (nomatch hi)⟩
      intro i hi
      rw [← Option.some.inj hi]
      exact Nat.succ_pos _

/-- A list leaves the offset alone where it has no entries, and everything else anyway. -/
theorem NamesRows.scrolled (h : p.NamesRows) (inner : Rect) : (p.scrolled inner).NamesRows := by
  rw [Panel.scrolled]
  split
  · exact h
  next hroom =>
    refine h.congr rfl rfl (fun hempty => ?_) rfl
    rw [hempty, List.isEmpty_nil, Bool.or_true] at hroom
    exact absurd rfl hroom

theorem NamesRows.selected_of_nil (h : p.NamesRows) (empty : p.entries = []) :
    p.selected = none := by
  rw [Option.eq_none_iff_forall_ne_some]
  intro i hi
  have hlt := h.selected i hi
  rw [empty] at hlt
  exact Nat.not_lt_zero i hlt

theorem NamesRows.ne_nil (h : p.NamesRows) {i : Nat} (selected : p.selected = some i) :
    p.entries ≠ [] := by
  intro hempty
  rw [h.selected_of_nil hempty] at selected
  cases selected

/-- Where rows are named a list has nothing to correct when it is drawn. -/
theorem NamesRows.corrected_eq (h : p.NamesRows) (inner : Rect) : p.corrected inner = p := by
  rw [corrected]
  split
  · rfl
  split
  next hempty =>
    have hnil : p.entries = [] := List.isEmpty_iff.mp hempty
    rw [select_of_nil hnil, ← h.selected_of_nil hnil, ← h.offset hnil]
  next hnonempty =>
    split
    next hsome =>
      obtain ⟨i, hi⟩ := Option.isSome_iff_exists.mp hsome
      have hlast : min i (p.entries.length - 1) = i := by
        have hlt := h.selected i hi
        omega
      have hne : p.entries ≠ [] := by simpa using hnonempty
      rw [hi, select_of_ne_nil hne, hlast, ← hi]
    · rfl

end Panel
end DevicePanel
