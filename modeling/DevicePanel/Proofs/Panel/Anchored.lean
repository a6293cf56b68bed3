import DevicePanel.Proofs.Panel.Event
import DevicePanel.Proofs.Panel.FocusFlags

/-!
# The focus of a panel

A panel is anchored when the ring of its focus is that of its controls and one of them has
the focus.  Input keeps it anchored: the focus moves within the ring; and where another
entry is selected, the ring is built again and the focus goes to the field or switch of that
entry, which is in the new ring.  Without entries there is only the list.

What input does to the focus is what it asks the focus for, one call after the other.  No
call needs more than an anchored panel.
-/

namespace DevicePanel

/-- The format of an entry, and whether it has a switch. -/
def Entry.kind (e : Entry) : Format × Bool := (e.parameter.format, e.draft.isSwitch)

namespace Panel

/-! ## What input asks the focus for -/

def inputCalls (p : Panel) : List Focus.Call :=
  match p.selected, p.entry? with
  | some i, some _ => [.focus (.editor i .input)]
  | _, _ => []

def chooseCalls (p : Panel) (index : Nat) : List Focus.Call :=
  .rebuild (p.select (some index)).controls :: (p.select (some index)).inputCalls

def keyCalls (p : Panel) (e : KeyEvent) : List Focus.Call :=
  match e.key with
  | .tab => [.next]
  | .backTab => [.previous]
  | .up => (p.selected.map fun i => p.chooseCalls (i - 1)).getD []
  | .down => (p.selected.map fun i => p.chooseCalls (i + 1)).getD []
  | key =>
    if p.focus.isOn .list && (key == .enter || key == .char ' ') then p.inputCalls else []

def listPressCalls (p : Panel) (y : Nat) : List Focus.Call :=
  if p.rowIndex y < p.entries.length then p.chooseCalls (p.rowIndex y) else [.focus .list]

def editorPressCalls (p : Panel) (e : PointerEvent) : List Focus.Call :=
  match p.editorLayout.control? e.x e.y, p.selected with
  | some control, some i => if p.entry?.isSome then [.focus (.editor i control)] else []
  | _, _ => []

def pointerCalls (p : Panel) (e : PointerEvent) : List Focus.Call :=
  match e.action with
  | .press =>
    if p.listArea.contains e.x e.y then p.listPressCalls e.y else p.editorPressCalls e
  | _ => []

/-! ## Anchored panels -/

/-- The ring of the focus is that of the panel's controls, and one of them has the
focus. -/
structure Anchored (p : Panel) : Prop where
  ring : p.focus.ring = p.controls
  focused : ∃ c ∈ p.controls, p.focus.current = some c

variable {p q : Panel} {calls : List Focus.Call}

theorem nodup_controls (p : Panel) : p.controls.Nodup := by
  rw [controls]
  split
  · split <;> simp
  · simp

theorem list_mem_controls (p : Panel) : .list ∈ p.controls := by
  rw [controls]
  split
  · split <;> exact List.mem_cons_self
  · exact List.mem_cons_self

theorem input_mem_controls {i : Nat} (selected : p.selected = some i)
    (found : p.entry?.isSome = true) : .editor i .input ∈ p.controls := by
  obtain ⟨e, he⟩ := Option.isSome_iff_exists.mp found
  rw [controls, selected, he]
  dsimp only
  split
  · exact List.mem_cons_of_mem _ List.mem_cons_self
  · exact List.mem_cons_of_mem _ List.mem_cons_self

theorem controls_of_none (h : p.entry? = none) : p.controls = [.list] := by
  rw [controls, h]
  split
  next heq => cases heq
  · rfl

theorem Anchored.isSome_current (h : p.Anchored) : p.focus.current.isSome = true := by
  obtain ⟨c, -, hc⟩ := h.focused
  rw [hc]
  rfl

theorem Anchored.sound (h : p.Anchored) : p.focus.Sound where
  nodup := by
    rw [h.ring]
    exact p.nodup_controls
  mem := by
    obtain ⟨c, hmem, hc⟩ := h.focused
    intro c' hc'
    rw [h.ring]
    cases hc.symm.trans hc'
    exact hmem

/-- The focus stays on some control of the ring. -/
theorem Anchored.of_focus (h : p.Anchored) {f : Focus} (ring : f.ring = p.focus.ring)
    (sound : f.Sound) (focused : f.current.isSome = true) :
    Anchored { p with focus := f } := by
  obtain ⟨c, hc⟩ := Option.isSome_iff_exists.mp focused
  have hring : f.ring = p.controls := ring.trans h.ring
  exact ⟨hring, c, hring ▸ sound.mem c hc, hc⟩

theorem Anchored.at_place (h : p.Anchored) {i : Nat} (hi : i < p.focus.ring.length) :
    Anchored { p with focus := { p.focus with current := p.focus.ring[i]? } } := by
  refine h.of_focus rfl (h.sound.at_place i) ?_
  rw [List.getElem?_eq_getElem hi]
  rfl

/-! ## Controls -/

/-- The controls depend on the selection and on the kinds of the entries alone. -/
theorem controls_congr (selected : q.selected = p.selected)
    (kinds : q.entries.map Entry.kind = p.entries.map Entry.kind) :
    q.controls = p.controls := by
  have hkind : q.entry?.map Entry.kind = p.entry?.map Entry.kind := by
    rw [Panel.entry?, Panel.entry?, selected]
    cases p.selected with
    | none => rfl
    | some i =>
        rw [Option.bind_some, Option.bind_some, ← List.getElem?_map, kinds, List.getElem?_map]
  rw [controls, controls, selected]
  cases hq : q.entry? with
  | none =>
      rw [hq] at hkind
      rw [Option.map_eq_none_iff.mp hkind.symm]
  | some e =>
      rw [hq, Option.map_some] at hkind
      obtain ⟨e', he', hsame⟩ := Option.map_eq_some_iff.mp hkind.symm
      have hswitch : e'.draft.isSwitch = e.draft.isSwitch := congrArg Prod.snd hsame
      rw [he']
      cases p.selected with
      | none => rfl
      | some i =>
          dsimp only
          rw [hswitch]

theorem Anchored.congr (h : p.Anchored) (focus : q.focus = p.focus)
    (selected : q.selected = p.selected)
    (kinds : q.entries.map Entry.kind = p.entries.map Entry.kind) : q.Anchored := by
  have hcontrols := controls_congr selected kinds
  constructor
  · rw [focus, hcontrols]
    exact h.ring
  · rw [focus, hcontrols]
    exact h.focused

/-- Editing leaves the focus and the selection alone, and the kinds of the entries if it
keeps switches and texts what they are. -/
theorem anchored_edit (h : p.Anchored) {f : Entry → Draft × Option Value}
    (hf : ∀ e, (f e).1.isSwitch = e.draft.isSwitch) : (p.edit f).1.Anchored := by
  rcases p.edit_cases f with hnone | ⟨i, e, -, hfound, hedit⟩
  · rw [hnone]
    exact h
  · rw [hedit]
    refine h.congr rfl rfl (map_set_of_eq Entry.kind hfound ?_)
    exact congrArg (Prod.mk e.parameter.format) (hf e)

theorem focus_edit (p : Panel) (f : Entry → Draft × Option Value) :
    (p.edit f).1.focus = p.focus := by
  rw [edit]
  split <;> rfl

/-! ## What input does to the focus -/

/-- A panel comes out of another one by calls of the focus, which an anchored panel allows,
and it is anchored again. -/
structure Follows (p : Panel) (calls : List Focus.Call) (q : Panel) : Prop where
  focus : q.focus = calls.foldl Focus.call p.focus
  allowed : p.Anchored → p.focus.AllowsAll calls
  anchored : p.Anchored → q.Anchored

theorem follows_refl (p : Panel) : p.Follows [] p := ⟨rfl, fun _ => trivial, id⟩

/-- What the editor makes of an event does nothing to the focus. -/
theorem Follows.edit (h : p.Follows calls q) {connected : Bool} (focus : EditorFocus)
    (layout : EditorLayout) (event : EditorEvent) {f : Entry → Draft × Option Value}
    (hf : ∀ entry, f entry =
      entry.draft.receive (entry.props connected) focus layout event) :
    p.Follows calls (q.edit f).1 where
  focus := (q.focus_edit f).trans h.focus
  allowed := h.allowed
  anchored hp := by
    refine anchored_edit (h.anchored hp) fun entry => ?_
    rw [hf, Draft.isSwitch_receive]

theorem follows_moveFocus (p : Panel) (c : Control) :
    p.Follows [.focus c] (p.moveFocus c) where
  focus := rfl
  allowed _ := ⟨trivial, trivial⟩
  anchored h := by
    apply h.of_focus
    · rw [Focus.moveTo]
      split <;> rfl
    · exact h.sound.moveTo c
    · rw [Focus.moveTo]
      split
      · rfl
      · exact h.isSome_current

theorem follows_next (p : Panel) : p.Follows [.next] { p with focus := p.focus.next } where
  focus := rfl
  allowed h := ⟨h.isSome_current, trivial⟩
  anchored h := by
    obtain ⟨c, i, hc, hi⟩ := h.sound.place h.isSome_current
    rw [Focus.next_eq h.sound.nodup hc hi]
    exact h.at_place (Nat.mod_lt _ (List.length_pos_of_mem (List.mem_of_getElem? hi)))

theorem follows_previous (p : Panel) :
    p.Follows [.previous] { p with focus := p.focus.previous } where
  focus := rfl
  allowed h := ⟨h.isSome_current, trivial⟩
  anchored h := by
    obtain ⟨c, i, hc, hi⟩ := h.sound.place h.isSome_current
    rw [Focus.previous_eq h.sound.nodup hc hi]
    exact h.at_place (Nat.mod_lt _ (List.length_pos_of_mem (List.mem_of_getElem? hi)))

theorem follows_focusInput (p : Panel) : p.Follows p.inputCalls p.focusInput := by
  rw [inputCalls, focusInput]
  cases p.selected with
  | none => exact p.follows_refl
  | some i =>
      cases p.entry? with
      | none => exact p.follows_refl
      | some e => exact p.follows_moveFocus _

/-! ## Choosing an entry -/

theorem focus_select (p : Panel) (index : Option Nat) : (p.select index).focus = p.focus := by
  cases index with
  | none => rfl
  | some i =>
      rw [select]
      split <;> rfl

theorem entry?_of_nil (h : p.entries = []) : p.entry? = none := by
  rw [Panel.entry?, h]
  cases p.selected with
  | none => rfl
  | some i => rfl

theorem focusInput_of_none (h : p.entry? = none) : p.focusInput = p := by
  rw [focusInput, h]
  split
  next heq => cases heq
  · rfl

/-- Where there are entries, one of them is selected. -/
theorem entry?_select (p : Panel) (h : p.entries ≠ []) (index : Nat) :
    ∃ i e, (p.select (some index)).selected = some i ∧
      entry? (p.select (some index)) = some e := by
  have hpos : 0 < p.entries.length := List.length_pos_iff.mpr h
  have hempty : p.entries.isEmpty = false := by simpa using h
  have hlast : min index (p.entries.length - 1) < p.entries.length := by omega
  have hselect : p.select (some index) =
      { p with selected := some (min index (p.entries.length - 1)) } := by
    rw [select, hempty]
    rfl
  rw [hselect]
  exact ⟨_, _, rfl, List.getElem?_eq_getElem hlast⟩

/-- The field or switch of a selected entry takes the focus in a ring that has been built
for it. -/
theorem anchored_focusInput {i : Nat} {e : Entry} (selected : p.selected = some i)
    (found : p.entry? = some e) (ring : p.focus.ring = p.controls) :
    p.focusInput.Anchored := by
  have hmem : Control.editor i .input ∈ p.controls :=
    input_mem_controls selected (by rw [found]; rfl)
  have hmove : p.focus.moveTo (.editor i .input) =
      { p.focus with current := some (.editor i .input) } := by
    rw [Focus.moveTo, if_pos (List.contains_iff_mem.mpr (ring ▸ hmem))]
  rw [focusInput, selected, found]
  dsimp only
  rw [moveFocus, hmove]
  exact ⟨ring, _, hmem, rfl⟩

/-- Without entries the list keeps the focus. -/
theorem anchored_choose_of_nil (h : p.Anchored) (empty : p.entries = []) (index : Nat) :
    (p.choose index).Anchored := by
  have hchoose : p.choose index = (p.select (some index)).rebuildFocus :=
    focusInput_of_none (entry?_of_nil ((p.entries_select _).trans empty))
  have hlist : p.focus.current = some .list := by
    obtain ⟨c, hmem, hc⟩ := h.focused
    rw [controls_of_none (entry?_of_nil empty), List.mem_singleton] at hmem
    rw [hc, hmem]
  rw [hchoose]
  refine ⟨rfl, .list, list_mem_controls _, ?_⟩
  rw [rebuildFocus, Focus.rebuild, focus_select, hlist]
  exact Option.filter_some_pos (List.contains_iff_mem.mpr (list_mem_controls _))

theorem anchored_choose (h : p.Anchored) (index : Nat) : (p.choose index).Anchored := by
  by_cases hempty : p.entries = []
  · exact anchored_choose_of_nil h hempty index
  · obtain ⟨i, e, hselected, hfound⟩ := p.entry?_select hempty index
    exact anchored_focusInput hselected hfound rfl

theorem follows_choose (p : Panel) (index : Nat) :
    p.Follows (p.chooseCalls index) (p.choose index) where
  focus := by
    have hinput := (p.select (some index)).rebuildFocus.follows_focusInput.focus
    rw [choose, hinput, chooseCalls, List.foldl_cons, ← p.focus_select (some index)]
    rfl
  allowed _ := by
    refine ⟨nodup_controls _, ?_⟩
    rw [inputCalls]
    split
    · exact ⟨trivial, trivial⟩
    · trivial
  anchored h := anchored_choose h index

/-! ## Input -/

theorem follows_editorKey (p : Panel) (connected : Bool) (e : KeyEvent) :
    p.Follows [] (p.editorKey connected e).1 := by
  rw [editorKey]
  split
  · exact p.follows_refl.edit p.editorFocus {} (.key e) fun _ => rfl
  · exact p.follows_refl

theorem follows_key (p : Panel) (connected : Bool) (e : KeyEvent) :
    p.Follows (p.keyCalls e) (p.key connected e).1 := by
  rw [keyCalls, key]
  cases e.key with
  | tab => exact p.follows_next
  | backTab => exact p.follows_previous
  | up =>
      cases p.selected with
      | none => exact p.follows_refl
      | some i => exact p.follows_choose (i - 1)
  | down =>
      cases p.selected with
      | none => exact p.follows_refl
      | some i => exact p.follows_choose (i + 1)
  | _ =>
      dsimp only
      split
      · exact p.follows_focusInput
      · exact p.follows_editorKey connected e

theorem follows_listPress (p : Panel) (y : Nat) :
    p.Follows (p.listPressCalls y) (p.listPress y) := by
  rw [listPressCalls, listPress]
  split
  · exact p.follows_choose _
  · exact p.follows_moveFocus .list

theorem follows_editorPress (p : Panel) (connected : Bool) (e : PointerEvent) :
    p.Follows (p.editorPressCalls e) (p.editorPress connected e).1 := by
  rw [editorPressCalls, editorPress]
  cases p.editorLayout.control? e.x e.y with
  | none => exact p.follows_refl
  | some control =>
      cases p.selected with
      | none => exact p.follows_refl
      | some i =>
          dsimp only
          split
          · exact (p.follows_moveFocus _).edit {} _ (.pointer e) fun _ => rfl
          · exact p.follows_refl.edit {} _ (.pointer e) fun _ => rfl

theorem follows_pointer (p : Panel) (connected : Bool) (e : PointerEvent) :
    p.Follows (p.pointerCalls e) (p.pointer connected e).1 := by
  rw [pointerCalls, pointer]
  cases e.action with
  | press =>
      dsimp only
      split
      · exact p.follows_listPress e.y
      · exact p.follows_editorPress connected e
  | move =>
      refine ⟨rfl, fun _ => trivial, fun h => ?_⟩
      exact h.congr rfl rfl rfl
  | _ => exact p.follows_refl

theorem follows_paste (p : Panel) (connected : Bool) (pasted : String) :
    p.Follows [] (p.paste connected pasted) := by
  rw [paste]
  split
  · exact p.follows_refl.edit p.editorFocus {} (.paste pasted) fun _ => rfl
  · exact p.follows_refl

end Panel
end DevicePanel
