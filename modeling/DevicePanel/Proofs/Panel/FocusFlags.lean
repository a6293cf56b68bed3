import DevicePanel.Panel.Focus
import Mathlib.Data.List.Nodup

/-!
# Focus as flags

A library that keeps the focus knows the controls of a tree and has a flag for every
control, in the tree or not.  Nothing in that says that one flag is set at a time.  What
is assumed of its calls is what they do to the flags: giving the focus to a control of the
tree sets its flag and clears the others, the next and the previous control are the
neighbours in the cycle of the tree, and a new tree clears the flags that have left it.

A library of which this holds has the same flags as a `Focus`, whatever it is asked for, as
long as the focus is moved on only when some control has it.  `Focus` is such a library
itself.
-/

namespace DevicePanel
namespace Focus

/-- What a focus can be asked for. -/
inductive Call where
  | focus (c : Control)
  | next
  | previous
  | rebuild (ring : List Control)

def call (f : Focus) : Call → Focus
  | .focus c => f.moveTo c
  | .next => f.next
  | .previous => f.previous
  | .rebuild ring => f.rebuild ring

theorem isOn_eq_true_iff {f : Focus} {c : Control} :
    f.isOn c = true ↔ f.current = some c := by
  rw [isOn, beq_iff_eq]

/-! ## Neighbours in a ring -/

variable {ring : List Control} {c : Control} {i : Nat}

theorem dropWhile_eq_drop (nodup : ring.Nodup) (found : ring[i]? = some c) :
    ring.dropWhile (· != c) = ring.drop i := by
  induction ring generalizing i with
  | nil => cases found
  | cons a ring ih =>
      rw [List.nodup_cons] at nodup
      cases i with
      | zero =>
          cases found
          rw [List.dropWhile_cons_of_neg (by simp)]
          rfl
      | succ i =>
          have hmem : c ∈ ring := List.mem_of_getElem? found
          have hne : a ≠ c := fun heq => nodup.1 (heq ▸ hmem)
          rw [List.dropWhile_cons_of_pos (by simpa using hne), List.drop_succ_cons]
          exact ih nodup.2 found

theorem after_eq (nodup : ring.Nodup) (found : ring[i]? = some c) :
    after c ring = ring[(i + 1) % ring.length]? := by
  obtain ⟨hi, -⟩ := List.getElem?_eq_some_iff.mp found
  rw [after, dropWhile_eq_drop nodup found, List.drop_drop, List.head?_drop]
  by_cases hlast : i + 1 < ring.length
  · rw [Nat.mod_eq_of_lt hlast, List.getElem?_eq_getElem hlast]
    rfl
  · have hlength : i + 1 = ring.length := by omega
    rw [hlength, Nat.mod_self, List.getElem?_eq_none (Nat.le_refl _), List.head?_eq_getElem?]
    rfl

theorem after_reverse_eq (nodup : ring.Nodup) (found : ring[i]? = some c) :
    after c ring.reverse = ring[(i + (ring.length - 1)) % ring.length]? := by
  obtain ⟨hi, -⟩ := List.getElem?_eq_some_iff.mp found
  have hreverse : ring.reverse[ring.length - 1 - i]? = some c := by
    rw [List.getElem?_reverse (by omega), ← found]
    congr 1
    omega
  rw [after_eq (List.nodup_reverse.mpr nodup) hreverse, List.length_reverse]
  -- Before the first control stands the last one.
  cases i with
  | zero =>
      have hfirst : ring.length - 1 - 0 + 1 = ring.length := by omega
      have hlast : 0 + (ring.length - 1) < ring.length := by omega
      rw [hfirst, Nat.mod_self, Nat.mod_eq_of_lt hlast, List.getElem?_reverse hi]
      congr 1
      omega
  | succ i =>
      have hbefore : ring.length - 1 - (i + 1) + 1 < ring.length := by omega
      have hsum : i + 1 + (ring.length - 1) = i + ring.length := by omega
      rw [Nat.mod_eq_of_lt hbefore, hsum, Nat.add_mod_right, Nat.mod_eq_of_lt (by omega),
        List.getElem?_reverse hbefore]
      congr 1
      omega

variable {f : Focus}

theorem next_eq (nodup : f.ring.Nodup) (current : f.current = some c)
    (found : f.ring[i]? = some c) :
    f.next = { f with current := f.ring[(i + 1) % f.ring.length]? } := by
  rw [next, current]
  dsimp only
  rw [after_eq nodup found]

theorem previous_eq (nodup : f.ring.Nodup) (current : f.current = some c)
    (found : f.ring[i]? = some c) :
    f.previous = { f with current := f.ring[(i + (f.ring.length - 1)) % f.ring.length]? } := by
  rw [previous, current]
  dsimp only
  rw [after_reverse_eq nodup found]

/-! ## What may be asked for -/

/-- Moving the focus on asks for a control that has it, and the controls of a tree are
distinct. -/
def Allows (f : Focus) : Call → Prop
  | .focus _ => True
  | .next | .previous => f.current.isSome = true
  | .rebuild ring => ring.Nodup

/-- Each of the calls is allowed when it is made. -/
def AllowsAll (f : Focus) : List Call → Prop
  | [] => True
  | call :: calls => f.Allows call ∧ AllowsAll (f.call call) calls

/-- The controls of the ring are distinct, and one that has the focus is among them. -/
structure Sound (f : Focus) : Prop where
  nodup : f.ring.Nodup
  mem : ∀ c, f.current = some c → c ∈ f.ring

theorem Sound.place (h : f.Sound) (focused : f.current.isSome = true) :
    ∃ (c : Control) (i : Nat), f.current = some c ∧ f.ring[i]? = some c := by
  obtain ⟨c, hc⟩ := Option.isSome_iff_exists.mp focused
  obtain ⟨i, hi⟩ := List.mem_iff_getElem?.mp (h.mem c hc)
  exact ⟨c, i, hc, hi⟩

theorem Sound.at_place (h : f.Sound) (i : Nat) : Sound { f with current := f.ring[i]? } :=
  ⟨h.nodup, fun _ hc => List.mem_of_getElem? hc⟩

theorem Sound.moveTo (h : f.Sound) (c : Control) : (f.moveTo c).Sound := by
  rw [Focus.moveTo]
  split
  next hmem => exact ⟨h.nodup, fun c' hc' => by cases hc'; simpa using hmem⟩
  · exact h

theorem sound_rebuild (f : Focus) (nodup : ring.Nodup) : (f.rebuild ring).Sound := by
  refine ⟨nodup, fun c hc => ?_⟩
  have hmem : ring.contains c = true := (Option.filter_eq_some_iff.mp hc).2
  exact List.contains_iff_mem.mp hmem

end Focus

/-- A library that keeps a flag for every control, and a tree of controls. -/
structure FlagTree (σ : Type) where
  tree : σ → List Control
  isSet : σ → Control → Bool
  call : σ → Focus.Call → σ

namespace FlagTree

/-- The flag of the control is set, and no other one. -/
def Only (flags : Control → Bool) (c : Control) : Prop := ∀ c', flags c' = true ↔ c' = c

/-- What a library is assumed to do. -/
structure Lawful {σ : Type} (lib : FlagTree σ) : Prop where
  tree_focus : ∀ s c, lib.tree (lib.call s (.focus c)) = lib.tree s
  tree_next : ∀ s, lib.tree (lib.call s .next) = lib.tree s
  tree_previous : ∀ s, lib.tree (lib.call s .previous) = lib.tree s
  tree_rebuild : ∀ s ring, lib.tree (lib.call s (.rebuild ring)) = ring
  /-- The flag of a control of the tree is set, and the others of the tree are cleared. -/
  focus_mem : ∀ s c, c ∈ lib.tree s →
    ∀ c' ∈ lib.tree s, lib.isSet (lib.call s (.focus c)) c' = true ↔ c' = c
  /-- Giving the focus to a control sets no flag outside the tree. -/
  focus_outside : ∀ s c c', c' ∉ lib.tree s →
    lib.isSet (lib.call s (.focus c)) c' = true → lib.isSet s c' = true
  /-- For a control that is not in the tree nothing happens. -/
  focus_not_mem : ∀ s c, c ∉ lib.tree s →
    lib.isSet (lib.call s (.focus c)) = lib.isSet s
  /-- The flag moves to the next control of the tree, after the last to the first. -/
  next : ∀ s c i, (lib.tree s).Nodup → (lib.tree s)[i]? = some c → Only (lib.isSet s) c →
    ∀ c', lib.isSet (lib.call s .next) c' = true ↔
      (lib.tree s)[(i + 1) % (lib.tree s).length]? = some c'
  /-- The flag moves to the control before in the tree, before the first to the last. -/
  previous : ∀ s c i, (lib.tree s).Nodup → (lib.tree s)[i]? = some c →
    Only (lib.isSet s) c →
    ∀ c', lib.isSet (lib.call s .previous) c' = true ↔
      (lib.tree s)[(i + ((lib.tree s).length - 1)) % (lib.tree s).length]? = some c'
  /-- The flags of a new tree stay as they are. -/
  rebuild_mem : ∀ s ring, ∀ c ∈ ring,
    lib.isSet (lib.call s (.rebuild ring)) c = lib.isSet s c
  /-- A flag that is not in the new tree is set only if it was, and not if it was in the
  tree before. -/
  rebuild_not_mem : ∀ s ring c, c ∉ ring →
    lib.isSet (lib.call s (.rebuild ring)) c = true →
      lib.isSet s c = true ∧ c ∉ lib.tree s

/-- No control is in the tree, and no flag is set. -/
structure Fresh {σ : Type} (lib : FlagTree σ) (s : σ) : Prop where
  tree : lib.tree s = []
  isSet : ∀ c, lib.isSet s c = false

/-- The flags of a library are those of a focus. -/
structure Agrees {σ : Type} (lib : FlagTree σ) (s : σ) (f : Focus) : Prop where
  sound : f.Sound
  tree : lib.tree s = f.ring
  isSet : ∀ c, lib.isSet s c = f.isOn c

variable {σ : Type} {lib : FlagTree σ} {s : σ} {f : Focus}

theorem Agrees.isSet_iff (h : Agrees lib s f) (c : Control) :
    lib.isSet s c = true ↔ f.current = some c := by
  rw [h.isSet, Focus.isOn_eq_true_iff]

theorem Agrees.only (h : Agrees lib s f) {c : Control} (hc : f.current = some c) :
    Only (lib.isSet s) c := by
  intro c'
  rw [h.isSet_iff, hc, Option.some.injEq, eq_comm]

theorem Agrees.not_isSet (h : Agrees lib s f) {c : Control} (hc : c ∉ lib.tree s) :
    ¬ lib.isSet s c = true := by
  rw [h.tree] at hc
  rw [h.isSet_iff]
  exact fun hcurrent => hc (h.sound.mem c hcurrent)

theorem Agrees.of_iff {s : σ} {f : Focus} (sound : f.Sound) (tree : lib.tree s = f.ring)
    (h : ∀ c, lib.isSet s c = true ↔ f.current = some c) : Agrees lib s f where
  sound := sound
  tree := tree
  isSet c := by
    rw [Bool.eq_iff_iff, h, Focus.isOn_eq_true_iff]

theorem Agrees.fresh (h : lib.Fresh s) : Agrees lib s {} :=
  .of_iff ⟨List.nodup_nil, fun _ hc => nomatch hc⟩ h.tree fun c => by simp [h.isSet]

theorem Agrees.focus (lawful : lib.Lawful) (h : Agrees lib s f) (c : Control) :
    Agrees lib (lib.call s (.focus c)) (f.moveTo c) := by
  have hsound := h.sound.moveTo c
  have htree : lib.tree (lib.call s (.focus c)) = f.ring :=
    (lawful.tree_focus s c).trans h.tree
  rw [Focus.moveTo] at hsound ⊢
  split
  next hring =>
    rw [if_pos hring] at hsound
    have hmem : c ∈ lib.tree s := by simpa [h.tree] using hring
    refine .of_iff hsound htree fun c' => ?_
    by_cases hmem' : c' ∈ lib.tree s
    · rw [lawful.focus_mem s c hmem c' hmem', Option.some.injEq, eq_comm]
    · have hne : ¬ some c = some c' := fun heq => hmem' (Option.some.inj heq ▸ hmem)
      exact iff_of_false
        (fun hset => h.not_isSet hmem' (lawful.focus_outside s c c' hmem' hset)) hne
  next hring =>
    have hmem : c ∉ lib.tree s := by simpa [h.tree] using hring
    refine .of_iff h.sound htree fun c' => ?_
    rw [lawful.focus_not_mem s c hmem, h.isSet_iff]

/-- A flag that moves to a place in the tree moves with the focus. -/
theorem Agrees.at_place (h : Agrees lib s f) {s' : σ} {i : Nat} (tree : lib.tree s' = lib.tree s)
    (moved : ∀ c, lib.isSet s' c = true ↔ (lib.tree s)[i]? = some c) :
    Agrees lib s' { f with current := f.ring[i]? } := by
  refine .of_iff (h.sound.at_place i) (tree.trans h.tree) fun c => ?_
  rw [moved, h.tree]

theorem Agrees.next (lawful : lib.Lawful) (h : Agrees lib s f)
    (focused : f.current.isSome = true) : Agrees lib (lib.call s .next) f.next := by
  obtain ⟨c, i, hc, hi⟩ := h.sound.place focused
  have hmoved := lawful.next s c i (h.tree ▸ h.sound.nodup) (h.tree ▸ hi) (h.only hc)
  have hplace := h.at_place (lawful.tree_next s) hmoved
  rw [h.tree] at hplace
  rw [Focus.next_eq h.sound.nodup hc hi]
  exact hplace

theorem Agrees.previous (lawful : lib.Lawful) (h : Agrees lib s f)
    (focused : f.current.isSome = true) : Agrees lib (lib.call s .previous) f.previous := by
  obtain ⟨c, i, hc, hi⟩ := h.sound.place focused
  have hmoved := lawful.previous s c i (h.tree ▸ h.sound.nodup) (h.tree ▸ hi) (h.only hc)
  have hplace := h.at_place (lawful.tree_previous s) hmoved
  rw [h.tree] at hplace
  rw [Focus.previous_eq h.sound.nodup hc hi]
  exact hplace

theorem Agrees.rebuild (lawful : lib.Lawful) (h : Agrees lib s f) {ring : List Control}
    (nodup : ring.Nodup) : Agrees lib (lib.call s (.rebuild ring)) (f.rebuild ring) := by
  refine .of_iff (f.sound_rebuild nodup) (lawful.tree_rebuild s ring) fun c => ?_
  rw [Focus.rebuild, Option.filter_eq_some_iff, List.contains_iff_mem]
  by_cases hmem : c ∈ ring
  · rw [lawful.rebuild_mem s ring c hmem, h.isSet_iff, and_iff_left hmem]
  · refine iff_of_false (fun hset => ?_) (fun hcurrent => hmem hcurrent.2)
    obtain ⟨hbefore, hgone⟩ := lawful.rebuild_not_mem s ring c hmem hset
    exact h.not_isSet hgone hbefore

theorem Agrees.call (lawful : lib.Lawful) (h : Agrees lib s f) {call : Focus.Call}
    (allowed : f.Allows call) : Agrees lib (lib.call s call) (f.call call) := by
  cases call with
  | focus c => exact h.focus lawful c
  | next => exact h.next lawful allowed
  | previous => exact h.previous lawful allowed
  | rebuild ring => exact h.rebuild lawful allowed

/-- The library after calls. -/
def after (lib : FlagTree σ) (s : σ) (calls : List Focus.Call) : σ := calls.foldl lib.call s

theorem after_append (lib : FlagTree σ) (s : σ) (calls calls' : List Focus.Call) :
    lib.after s (calls ++ calls') = lib.after (lib.after s calls) calls' :=
  List.foldl_append

/-- A lawful library has the flags of the focus that has been asked for the same. -/
theorem Agrees.after (lawful : lib.Lawful) (h : Agrees lib s f) {calls : List Focus.Call}
    (allowed : f.AllowsAll calls) : Agrees lib (lib.after s calls) (calls.foldl Focus.call f) := by
  induction calls generalizing s f with
  | nil => exact h
  | cons call calls ih => exact ih (h.call lawful allowed.1) allowed.2

/-! ## A focus as a library -/

/-- The flags of a focus. -/
def ofFocus : FlagTree Focus := ⟨Focus.ring, Focus.isOn, Focus.call⟩

theorem current_of_only {c : Control} (h : Only f.isOn c) : f.current = some c :=
  Focus.isOn_eq_true_iff.mp ((h c).mpr rfl)

theorem lawful_ofFocus : ofFocus.Lawful where
  tree_focus f c := by
    change (f.moveTo c).ring = f.ring
    rw [Focus.moveTo]
    split <;> rfl
  tree_next f := by
    change f.next.ring = f.ring
    rw [Focus.next]
    split <;> rfl
  tree_previous f := by
    change f.previous.ring = f.ring
    rw [Focus.previous]
    split <;> rfl
  tree_rebuild _ _ := rfl
  focus_mem f c hmem c' _ := by
    have hcall : f.moveTo c = { f with current := some c } :=
      if_pos (List.contains_iff_mem.mpr hmem)
    change (f.moveTo c).isOn c' = true ↔ c' = c
    rw [hcall, Focus.isOn_eq_true_iff, Option.some.injEq, eq_comm]
  focus_outside f c c' hmem' hset := by
    change (f.moveTo c).isOn c' = true at hset
    rw [Focus.moveTo] at hset
    split at hset
    next hmem =>
      rw [Focus.isOn_eq_true_iff, Option.some.injEq] at hset
      subst hset
      exact absurd (List.contains_iff_mem.mp hmem) hmem'
    · exact hset
  focus_not_mem f c hmem := by
    have hcall : f.moveTo c = f :=
      if_neg fun hring => hmem (List.contains_iff_mem.mp hring)
    exact congrArg Focus.isOn hcall
  next f c i nodup found only c' := by
    change f.next.isOn c' = true ↔ _
    rw [Focus.next_eq nodup (current_of_only only) found, Focus.isOn_eq_true_iff]
    rfl
  previous f c i nodup found only c' := by
    change f.previous.isOn c' = true ↔ _
    rw [Focus.previous_eq nodup (current_of_only only) found, Focus.isOn_eq_true_iff]
    rfl
  rebuild_mem f ring c hmem := by
    change (f.rebuild ring).isOn c = f.isOn c
    rw [Bool.eq_iff_iff, Focus.isOn_eq_true_iff, Focus.isOn_eq_true_iff, Focus.rebuild,
      Option.filter_eq_some_iff, List.contains_iff_mem, and_iff_left hmem]
  rebuild_not_mem f ring c hmem hset := by
    change (f.rebuild ring).isOn c = true at hset
    rw [Focus.isOn_eq_true_iff, Focus.rebuild, Option.filter_eq_some_iff,
      List.contains_iff_mem] at hset
    exact absurd hset.2 hmem

end FlagTree
end DevicePanel
