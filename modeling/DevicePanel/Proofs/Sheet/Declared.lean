import DevicePanel.Proofs.Sheet.Accepted
import Mathlib.Data.List.Nodup

/-!
# What a declaration becomes

There is a sheet for some declarations exactly if none of them is at fault, and otherwise the
error is the fault of the first one that is.

The parameters may also be put into a map under their keys, where a later one would take the
place of an earlier one with the same key.  No key comes twice, so the map has all of them, in
the order of the declarations.
-/

namespace DevicePanel

/-! ## Maps in the order of their keys -/

/-- Values under keys, in the order in which the keys have come. -/
structure KeyedList (α : Type) where
  entries : List (String × α) := []

namespace KeyedList

variable {α : Type}

def keys (m : KeyedList α) : List String := m.entries.map Prod.fst

/-- The value under a key. -/
def find? (m : KeyedList α) (key : String) : Option α := m.entries.lookup key

/-- Put a value in under a key.  It takes the place of the one that is there. -/
def insert (m : KeyedList α) (key : String) (value : α) : KeyedList α :=
  if m.keys.contains key then
    ⟨m.entries.map fun e => if e.1 == key then (key, value) else e⟩
  else ⟨m.entries ++ [(key, value)]⟩

theorem insert_of_not_mem {m : KeyedList α} {key : String} (h : key ∉ m.keys) (value : α) :
    m.insert key value = ⟨m.entries ++ [(key, value)]⟩ := by
  rw [insert, if_neg (by simpa using h)]

/-- Values under keys of their own are found there. -/
theorem find?_of_nodup {values : List α} {key : α → String} (h : (values.map key).Nodup)
    {a : α} (ha : a ∈ values) :
    find? ⟨values.map fun a => (key a, a)⟩ (key a) = some a := by
  induction values with
  | nil => cases ha
  | cons b values ih =>
      obtain ⟨hfresh, hnodup⟩ := List.nodup_cons.mp h
      rw [find?, List.map_cons, List.lookup_cons]
      rcases List.mem_cons.mp ha with rfl | hmem
      · rw [beq_self_eq_true]
      · have hne : (key a == key b) = false := by
          rw [beq_eq_false_iff_ne]
          intro heq
          exact hfresh (heq ▸ List.mem_map_of_mem hmem)
        rw [hne]
        exact ih hnodup hmem

end KeyedList

namespace ParameterDeclaration

/-! ## The first fault -/

/-- The declaration with an index has a fault. -/
def FaultAt (ds : List ParameterDeclaration) (i : Nat) (e : SheetError) : Prop :=
  ∃ d, ds[i]? = some d ∧ d.Fault i ((ds.take i).map ownKey) e

/-- The fault of the first declaration that has one. -/
def FirstFault (ds : List ParameterDeclaration) (e : SheetError) : Prop :=
  ∃ i, FaultAt ds i e ∧ ∀ j < i, ∀ e', ¬ FaultAt ds j e'

/-- Every declaration has a key of its own, and a value of its format if it gives one. -/
structure Sound (ds : List ParameterDeclaration) : Prop where
  key_nonempty : ∀ d ∈ ds, d.ownKey ≠ ""
  keys_nodup : (ds.map ownKey).Nodup
  value_accepted : ∀ d ∈ ds, ∀ v, d.value = some v → ∃ value, d.format.check v = .ok value

theorem faultFrom_start {ds : List ParameterDeclaration} {i : Nat} {e : SheetError} :
    FaultFrom ds 0 [] i e ↔ FaultAt ds i e := by
  simp [FaultFrom, FaultAt]

theorem FirstFault.unique {ds : List ParameterDeclaration} {e e' : SheetError}
    (h : FirstFault ds e) (h' : FirstFault ds e') : e = e' := by
  obtain ⟨i, hfault, hbefore⟩ := h
  obtain ⟨i', hfault', hbefore'⟩ := h'
  have hi : i = i' := by
    rcases Nat.lt_trichotomy i i' with hlt | heq | hgt
    · exact absurd hfault (hbefore' i hlt e)
    · exact heq
    · exact absurd hfault' (hbefore i' hgt e')
  subst hi
  obtain ⟨d, hfound, hd⟩ := hfault
  obtain ⟨d', hfound', hd'⟩ := hfault'
  cases hfound.symm.trans hfound'
  exact hd.unique hd'

theorem mem_earlier_iff {ds : List ParameterDeclaration} {i : Nat} {key : String} :
    key ∈ (ds.take i).map ownKey ↔ ∃ j < i, (ds.map ownKey)[j]? = some key := by
  rw [List.map_take, List.mem_iff_getElem?]
  constructor
  · rintro ⟨j, hj⟩
    rw [List.getElem?_take] at hj
    split at hj
    next hji => exact ⟨j, hji, hj⟩
    · cases hj
  · rintro ⟨j, hji, hj⟩
    exact ⟨j, (List.getElem?_take_of_lt hji).trans hj⟩

/-- The keys are distinct exactly if none belongs to an earlier declaration. -/
theorem keys_nodup_iff {ds : List ParameterDeclaration} :
    (ds.map ownKey).Nodup ↔
      ∀ i d, ds[i]? = some d → d.ownKey ∉ (ds.take i).map ownKey := by
  rw [List.nodup_iff_getElem?_ne_getElem?]
  constructor
  · intro hne i d hfound hmem
    obtain ⟨j, hji, hkey⟩ := mem_earlier_iff.mp hmem
    have hown : (ds.map ownKey)[i]? = some d.ownKey := by
      rw [List.getElem?_map, hfound]
      rfl
    exact hne j i hji (List.getElem?_eq_some_iff.mp hown).1 (hkey.trans hown.symm)
  · intro hfresh i j hij hj heq
    obtain ⟨d, hfound, hkey⟩ : ∃ d, ds[j]? = some d ∧ (ds.map ownKey)[j]? = some d.ownKey := by
      rw [List.length_map] at hj
      exact ⟨ds[j], List.getElem?_eq_getElem hj, by simp [hj]⟩
    exact hfresh j d hfound (mem_earlier_iff.mpr ⟨i, hij, heq.trans hkey⟩)

/-- No declaration is at fault exactly if all are sound. -/
theorem sound_iff {ds : List ParameterDeclaration} : Sound ds ↔ ∀ i e, ¬ FaultAt ds i e := by
  have hplaces : (∀ i e, ¬ FaultAt ds i e) ↔
      ∀ i (d : ParameterDeclaration), ds[i]? = some d →
        ∀ e, ¬ d.Fault i ((ds.take i).map ownKey) e := by
    simp only [FaultAt, not_exists, not_and]
    exact ⟨fun h i d hfound e => h i e d hfound, fun h i e d hfound => h i d hfound e⟩
  simp only [hplaces, no_fault_iff]
  constructor
  · intro sound i d hfound
    have hmem : d ∈ ds := List.mem_of_getElem? hfound
    exact ⟨sound.key_nonempty d hmem, keys_nodup_iff.mp sound.keys_nodup i d hfound,
      sound.value_accepted d hmem⟩
  · intro h
    constructor
    · intro d hmem
      obtain ⟨i, hfound⟩ := List.mem_iff_getElem?.mp hmem
      exact (h i d hfound).1
    · exact keys_nodup_iff.mpr fun i d hfound => (h i d hfound).2.1
    · intro d hmem
      obtain ⟨i, hfound⟩ := List.mem_iff_getElem?.mp hmem
      exact (h i d hfound).2.2

/-! ## The loop with a map -/

/-- Put the parameters of declarations into a map one after the other, under their keys.  The
first declaration has the given index, and the keys of the map are taken. -/
def collect : List ParameterDeclaration → Nat → KeyedList Parameter →
    Except SheetError (KeyedList Parameter)
  | [], _, m => .ok m
  | d :: rest, index, m => do
    let p ← d.check index m.keys
    collect rest (index + 1) (m.insert p.key p)

/-- The map has the parameters behind what was there, none lost and none moved. -/
theorem collect_eq (ds : List ParameterDeclaration) (index : Nat) (m : KeyedList Parameter) :
    collect ds index m =
      (checkAll ds index m.keys).map fun ps => ⟨m.entries ++ ps.map fun p => (p.key, p)⟩ := by
  induction ds generalizing index m with
  | nil =>
      rw [collect, checkAll, Except.map, List.map_nil, List.append_nil]
  | cons d ds ih =>
      rw [collect]
      rcases check_outcome d index m.keys with ⟨p, hcheck, hdeclares, hsound⟩ | ⟨e, hcheck, -⟩
      · have hfresh : p.key ∉ m.keys := by
          rw [hdeclares.key]
          exact (no_fault_iff.mp hsound).2.1
        have hinsert := KeyedList.insert_of_not_mem hfresh p
        have hkeys : (m.insert p.key p).keys = m.keys ++ [p.key] := by
          rw [hinsert, KeyedList.keys, List.map_append]
          rfl
        rw [checkAll_of_ok hcheck, hcheck]
        change collect ds (index + 1) (m.insert p.key p) = _
        rw [ih, hkeys, hinsert]
        cases checkAll ds (index + 1) (m.keys ++ [p.key]) with
        | error e => rfl
        | ok ps =>
            simp only [Except.map, List.append_assoc, List.map_cons]
            rfl
      · rw [checkAll, hcheck]
        rfl

end ParameterDeclaration

namespace Sheet

open ParameterDeclaration

/-- The parameters of a sheet under their keys. -/
def byKey (sheet : Sheet) : KeyedList Parameter :=
  ⟨sheet.parameters.map fun p => (p.key, p)⟩

/-- A declaration is sound and becomes the sheet that it stands for, or its first fault is the
error. -/
theorem ofDeclaration_outcome (source : Source) (d : SheetDeclaration) :
    (∃ ps, ofDeclaration source d = .ok ⟨source, d.theme, d.connected, ps⟩ ∧
        checkAll d.parameters 0 [] = .ok ps ∧ List.Forall₂ Declares d.parameters ps ∧
        Sound d.parameters) ∨
      ∃ e, ofDeclaration source d = .error e ∧ checkAll d.parameters 0 [] = .error e ∧
        FirstFault d.parameters e := by
  rcases checkAll_outcome d.parameters 0 [] with
    ⟨ps, hchecked, hdeclares, hnone⟩ | ⟨i, e, hchecked, hfault, hbefore⟩
  · refine .inl ⟨ps, ?_, hchecked, hdeclares, ?_⟩
    · rw [ofDeclaration, hchecked]
      rfl
    · exact sound_iff.mpr fun i e h => hnone i e (faultFrom_start.mpr h)
  · refine .inr ⟨e, ?_, hchecked, i, faultFrom_start.mp hfault, ?_⟩
    · rw [ofDeclaration, hchecked]
      rfl
    · exact fun j hj e' h => hbefore j hj e' (faultFrom_start.mpr h)

/-- There is a sheet for a declaration exactly if each of its parameters has a key of its own,
which is not empty without the blanks around it, and a value of its format if it gives one.
The sheet has the parameters that are declared, each once and in their order, and each is
found under its key.  Otherwise the error is the fault of the first parameter that has one.
Putting the parameters into a map one after the other comes to the same. -/
theorem sheet_is_declared (source : Source) (d : SheetDeclaration) :
    ((∃ sheet, ofDeclaration source d = .ok sheet) ↔ Sound d.parameters) ∧
    (∀ sheet, ofDeclaration source d = .ok sheet →
      sheet.source = source ∧ sheet.theme = d.theme ∧ sheet.connected = d.connected ∧
      List.Forall₂ Declares d.parameters sheet.parameters ∧
      ∀ p ∈ sheet.parameters, sheet.byKey.find? p.key = some p) ∧
    (∀ e, ofDeclaration source d = .error e ↔ FirstFault d.parameters e) ∧
    collect d.parameters 0 {} = (ofDeclaration source d).map byKey := by
  have hcollect := collect_eq d.parameters 0 {}
  rcases ofDeclaration_outcome source d with
    ⟨ps, hsheet, hchecked, hdeclares, hsound⟩ | ⟨e, hsheet, hchecked, hfirst⟩
  · refine ⟨iff_of_true ⟨_, hsheet⟩ hsound, ?_, ?_, ?_⟩
    · intro sheet h
      have hkeys := (consistent_of_ofDeclaration h).keys_nodup
      cases hsheet.symm.trans h
      exact ⟨rfl, rfl, rfl, hdeclares, fun p hp => KeyedList.find?_of_nodup hkeys hp⟩
    · intro e
      rw [hsheet]
      refine iff_of_false (fun h => nomatch h) ?_
      rintro ⟨i, hfault, -⟩
      exact sound_iff.mp hsound i e hfault
    · rw [hcollect, hsheet, show KeyedList.keys {} = [] from rfl, hchecked]
      rfl
  · refine ⟨iff_of_false ?_ ?_, ?_, ?_, ?_⟩
    · rintro ⟨sheet, h⟩
      cases hsheet.symm.trans h
    · intro hsound
      obtain ⟨i, hfault, -⟩ := hfirst
      exact sound_iff.mp hsound i e hfault
    · intro sheet h
      cases hsheet.symm.trans h
    · intro e'
      rw [hsheet]
      constructor
      · intro h
        cases h
        exact hfirst
      · intro h
        rw [hfirst.unique h]
    · rw [hcollect, hsheet, show KeyedList.keys {} = [] from rfl, hchecked]
      rfl

/-- Two parameters, the second without a label and with a key between blanks. -/
theorem sheet_is_declared_two :
    let d : SheetDeclaration :=
      ⟨none, true, [⟨"rate", some "Rate", .numberWithUnits, some "Hz", false, none⟩,
        ⟨" muted ", none, .bool, none, true, some (.text "1")⟩]⟩
    let muted : Parameter := ⟨"muted", "muted", .bool, none, true, some (.bool true)⟩
    let sheet : Sheet :=
      ⟨.builtIn, none, true, [⟨"rate", "Rate", .numberWithUnits, some "Hz", false, none⟩, muted]⟩
    ofDeclaration .builtIn d = .ok sheet ∧ sheet.byKey.find? "muted" = some muted := by
  intro d muted sheet
  have hsheet : ofDeclaration .builtIn d = .ok sheet := rfl
  obtain ⟨-, hdeclared, -, -⟩ := sheet_is_declared .builtIn d
  obtain ⟨-, -, -, -, hfound⟩ := hdeclared sheet hsheet
  exact ⟨hsheet, hfound muted (List.mem_cons_of_mem _ List.mem_cons_self)⟩

/-- A repeated key goes before the bad value behind it, and before every later fault. -/
example (v : Json) :
    ofDeclaration .builtIn ⟨none, true, [⟨"a", none, .json, none, false, none⟩,
      ⟨" a", none, .text, none, false, some (.bool true)⟩,
      ⟨"", none, .json, none, false, some v⟩]⟩ = .error (.duplicateKey "a") :=
  rfl

end Sheet
end DevicePanel
