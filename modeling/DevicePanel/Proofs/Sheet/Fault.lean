import DevicePanel.Proofs.Support.Except
import DevicePanel.Sheet.Load
import Mathlib.Data.List.Forall2

/-!
# What may be wrong with a declaration

A declaration may be at fault in its key, which is empty or belongs to an earlier one, or in
its value.  The declarations of a sheet become parameters one by one, in their order, until
one is at fault.
-/

namespace DevicePanel

namespace ParameterDeclaration

/-! ## One declaration -/

/-- The key that a declaration gives to its parameter. -/
def ownKey (d : ParameterDeclaration) : String := Text.trim d.key

/-- What is wrong with a declaration that has the given index and comes behind those with the
keys `earlier`.  An empty key goes before a repeated one, and both go before the value. -/
inductive Fault (d : ParameterDeclaration) (index : Nat) (earlier : List String) :
    SheetError → Prop
  | emptyKey (empty : d.ownKey = "") : Fault d index earlier (.emptyKey index)
  | duplicateKey (nonempty : d.ownKey ≠ "") (repeated : d.ownKey ∈ earlier) :
      Fault d index earlier (.duplicateKey d.ownKey)
  | invalidValue {v : Json} {cause : ValueError} (nonempty : d.ownKey ≠ "")
      (fresh : d.ownKey ∉ earlier) (given : d.value = some v)
      (rejected : d.format.check v = .error cause) :
      Fault d index earlier (.invalidValue d.ownKey cause)

/-- The parameter that a declaration stands for.  Its value is what the format makes of the
given one, and is unset without one. -/
structure Declares (d : ParameterDeclaration) (p : Parameter) : Prop where
  key : p.key = d.ownKey
  label : p.label = d.label.getD d.ownKey
  format : p.format = d.format
  units : p.units = d.units
  compact : p.compact = d.compact
  value : d.value.map d.format.check = p.value.map .ok

theorem Fault.unique {d : ParameterDeclaration} {index : Nat} {earlier : List String}
    {e e' : SheetError} (h : d.Fault index earlier e) (h' : d.Fault index earlier e') :
    e = e' := by
  cases h with
  | emptyKey empty =>
      cases h' with
      | emptyKey => rfl
      | duplicateKey nonempty | invalidValue nonempty => exact absurd empty nonempty
  | duplicateKey nonempty repeated =>
      cases h' with
      | emptyKey empty => exact absurd empty nonempty
      | duplicateKey => rfl
      | invalidValue _ fresh => exact absurd repeated fresh
  | invalidValue nonempty fresh given rejected =>
      cases h' with
      | emptyKey empty => exact absurd empty nonempty
      | duplicateKey _ repeated => exact absurd repeated fresh
      | invalidValue _ _ given' rejected' =>
          cases given.symm.trans given'
          cases rejected.symm.trans rejected'
          rfl

/-- A declaration without a fault has a key of its own, and a value of its format if it gives
one. -/
theorem no_fault_iff {d : ParameterDeclaration} {index : Nat} {earlier : List String} :
    (∀ e, ¬ d.Fault index earlier e) ↔
      d.ownKey ≠ "" ∧ d.ownKey ∉ earlier ∧
        ∀ v, d.value = some v → ∃ value, d.format.check v = .ok value := by
  constructor
  · intro hnone
    have hnonempty : d.ownKey ≠ "" := fun empty => hnone _ (.emptyKey empty)
    have hfresh : d.ownKey ∉ earlier := fun repeated =>
      hnone _ (.duplicateKey hnonempty repeated)
    refine ⟨hnonempty, hfresh, ?_⟩
    intro v given
    cases hchecked : d.format.check v with
    | ok value => exact ⟨value, rfl⟩
    | error cause => exact absurd (.invalidValue hnonempty hfresh given hchecked) (hnone _)
  · rintro ⟨hnonempty, hfresh, haccepted⟩ e hfault
    cases hfault with
    | emptyKey empty => exact hnonempty empty
    | duplicateKey _ repeated => exact hfresh repeated
    | invalidValue _ _ given rejected =>
        obtain ⟨value, hchecked⟩ := haccepted _ given
        cases hchecked.symm.trans rejected

/-- A declaration as a parameter with a value. -/
def withValue (d : ParameterDeclaration) (value : Option Value) : Parameter where
  key := d.ownKey
  label := d.label.getD d.ownKey
  format := d.format
  units := d.units
  compact := d.compact
  value := value

/-- With a key of its own, a declaration can be at fault in its value only. -/
theorem check_of_fresh {d : ParameterDeclaration} {taken : List String}
    (nonempty : d.ownKey ≠ "") (fresh : d.ownKey ∉ taken) (index : Nat) :
    d.check index taken =
      match d.value with
      | none => .ok (d.withValue none)
      | some v =>
        match d.format.check v with
        | .ok value => .ok (d.withValue (some value))
        | .error cause => .error (.invalidValue d.ownKey cause) := by
  have hkey : ¬ d.ownKey.isEmpty = true := by simpa using nonempty
  have hcontains : ¬ taken.contains d.ownKey = true := by simpa using fresh
  rw [check, ← ownKey]
  dsimp only
  rw [if_neg hkey, if_neg hcontains]
  cases d.value with
  | none => rfl
  | some v =>
      dsimp only
      cases d.format.check v <;> rfl

/-- A declaration is at fault, which is the error, or it becomes the parameter that it stands
for. -/
theorem check_outcome (d : ParameterDeclaration) (index : Nat) (taken : List String) :
    (∃ p, d.check index taken = .ok p ∧ d.Declares p ∧ ∀ e, ¬ d.Fault index taken e) ∨
      ∃ e, d.check index taken = .error e ∧ d.Fault index taken e := by
  by_cases hempty : d.ownKey = ""
  · refine .inr ⟨_, ?_, .emptyKey hempty⟩
    rw [check, ← ownKey, hempty]
    rfl
  by_cases htaken : d.ownKey ∈ taken
  · refine .inr ⟨_, ?_, .duplicateKey hempty htaken⟩
    have hkey : ¬ d.ownKey.isEmpty = true := by simpa using hempty
    have hcontains : taken.contains d.ownKey = true := by simpa using htaken
    rw [check, ← ownKey]
    dsimp only
    rw [if_neg hkey, if_pos hcontains]
  cases hvalue : d.value with
  | none =>
      refine .inl ⟨d.withValue none, ?_, ⟨rfl, rfl, rfl, rfl, rfl, ?_⟩, ?_⟩
      · rw [check_of_fresh hempty htaken, hvalue]
      · rw [hvalue]
        rfl
      · rw [no_fault_iff]
        exact ⟨hempty, htaken, by simp [hvalue]⟩
  | some v =>
      cases hchecked : d.format.check v with
      | ok value =>
          refine .inl ⟨d.withValue (some value), ?_, ⟨rfl, rfl, rfl, rfl, rfl, ?_⟩, ?_⟩
          · simp only [check_of_fresh hempty htaken, hvalue, hchecked]
          · rw [hvalue, Option.map_some, hchecked]
            rfl
          · rw [no_fault_iff]
            exact ⟨hempty, htaken, by simp [hvalue, hchecked]⟩
      | error cause =>
          refine .inr ⟨_, ?_, .invalidValue hempty htaken hvalue hchecked⟩
          simp only [check_of_fresh hempty htaken, hvalue, hchecked]

/-! ## The declarations of a sheet -/

/-- The declaration with an index has a fault, where the first declaration has the index
`first` and comes behind those with the keys `taken`. -/
def FaultFrom (ds : List ParameterDeclaration) (first : Nat) (taken : List String) (i : Nat)
    (e : SheetError) : Prop :=
  ∃ d, ds[i]? = some d ∧ d.Fault (first + i) (taken ++ (ds.take i).map ownKey) e

section Lists

variable {d : ParameterDeclaration} {ds : List ParameterDeclaration} {first : Nat}
  {taken : List String} {i : Nat} {e : SheetError}

theorem faultFrom_zero : FaultFrom (d :: ds) first taken 0 e ↔ d.Fault first taken e := by
  simp [FaultFrom]

theorem faultFrom_succ :
    FaultFrom (d :: ds) first taken (i + 1) e ↔
      FaultFrom ds (first + 1) (taken ++ [d.ownKey]) i e := by
  simp [FaultFrom, Nat.add_assoc, Nat.add_comm 1 i]

end Lists

theorem checkAll_of_ok {d : ParameterDeclaration} {index : Nat} {taken : List String}
    {p : Parameter} (h : d.check index taken = .ok p) (ds : List ParameterDeclaration) :
    checkAll (d :: ds) index taken =
      (checkAll ds (index + 1) (taken ++ [p.key])).map (p :: ·) := by
  rw [checkAll, h]
  change checkAll ds (index + 1) (taken ++ [p.key]) >>= _ = _
  cases checkAll ds (index + 1) (taken ++ [p.key]) <;> rfl

/-- The declarations become the parameters that they stand for, and none is at fault; or the
error is the fault of the first one that is. -/
theorem checkAll_outcome (ds : List ParameterDeclaration) (first : Nat) (taken : List String) :
    (∃ ps, checkAll ds first taken = .ok ps ∧ List.Forall₂ Declares ds ps ∧
        ∀ i e, ¬ FaultFrom ds first taken i e) ∨
      ∃ i e, checkAll ds first taken = .error e ∧ FaultFrom ds first taken i e ∧
        ∀ j < i, ∀ e', ¬ FaultFrom ds first taken j e' := by
  induction ds generalizing first taken with
  | nil =>
      refine .inl ⟨[], rfl, .nil, ?_⟩
      rintro i e ⟨d, hfound, -⟩
      cases hfound
  | cons d ds ih =>
      rcases check_outcome d first taken with ⟨p, hcheck, hdeclares, hsound⟩ | ⟨e, hcheck, hfault⟩
      · -- The head is in order, so a fault is one of the rest.
        have hhead : ∀ e, ¬ FaultFrom (d :: ds) first taken 0 e := fun e h =>
          hsound e (faultFrom_zero.mp h)
        rw [checkAll_of_ok hcheck, hdeclares.key]
        rcases ih (first + 1) (taken ++ [d.ownKey]) with
          ⟨ps, hrest, hall, hnone⟩ | ⟨i, e, hrest, hfault, hbefore⟩
        · rw [hrest]
          refine .inl ⟨p :: ps, rfl, .cons hdeclares hall, ?_⟩
          intro i e h
          cases i with
          | zero => exact hhead e h
          | succ i => exact hnone i e (faultFrom_succ.mp h)
        · rw [hrest]
          refine .inr ⟨i + 1, e, rfl, faultFrom_succ.mpr hfault, ?_⟩
          intro j hj e' h
          cases j with
          | zero => exact hhead e' h
          | succ j => exact hbefore j (Nat.lt_of_succ_lt_succ hj) e' (faultFrom_succ.mp h)
      · rw [checkAll, hcheck]
        exact .inr ⟨0, e, rfl, faultFrom_zero.mpr hfault, fun j hj => absurd hj j.not_lt_zero⟩

end ParameterDeclaration

end DevicePanel
