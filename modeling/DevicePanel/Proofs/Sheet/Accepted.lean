import DevicePanel.Proofs.Sheet.Fault
import DevicePanel.Proofs.Value.Shape

/-!
# Accepted sheets

A sheet that has been read, from a text or from a file, has passed the checks of its
declaration; the built-in sheet passes them too.  So the parameters of every accepted
sheet have keys of their own and values of the shape that their formats ask for.
-/

namespace DevicePanel

/-- What the checks of a declaration promise of a sheet's parameters. -/
structure Parameter.Consistent (parameters : List Parameter) : Prop where
  keys_nodup : (parameters.map Parameter.key).Nodup
  hasShape : ∀ p ∈ parameters, ∀ v, p.value = some v → v.HasShape p.format

namespace ParameterDeclaration

/-- A checked declaration has a key that was not taken and a value of its format. -/
theorem check_spec {d : ParameterDeclaration} {index : Nat} {taken : List String}
    {p : Parameter} (h : d.check index taken = .ok p) :
    p.key ∉ taken ∧ ∀ v, p.value = some v → v.HasShape p.format := by
  rcases check_outcome d index taken with ⟨p', hcheck, hdeclares, hsound⟩ | ⟨e, hcheck, -⟩
  · cases hcheck.symm.trans h
    obtain ⟨-, hfresh, -⟩ := no_fault_iff.mp hsound
    refine ⟨hdeclares.key ▸ hfresh, ?_⟩
    intro v hv
    have hvalue := hdeclares.value
    rw [hv, Option.map_some] at hvalue
    obtain ⟨j, -, hchecked⟩ := Option.map_eq_some_iff.mp hvalue
    rw [hdeclares.format]
    exact Format.hasShape_of_check hchecked
  · cases hcheck.symm.trans h

theorem checkAll_cons {d : ParameterDeclaration} {ds : List ParameterDeclaration}
    {index : Nat} {taken : List String} {ps : List Parameter}
    (h : checkAll (d :: ds) index taken = .ok ps) :
    ∃ p rest, d.check index taken = .ok p ∧
      checkAll ds (index + 1) (taken ++ [p.key]) = .ok rest ∧ ps = p :: rest := by
  rw [checkAll] at h
  obtain ⟨p, hp, h⟩ := exists_of_bind_eq_ok h
  obtain ⟨rest, hrest, h⟩ := exists_of_bind_eq_ok h
  cases h
  exact ⟨p, rest, hp, hrest, rfl⟩

theorem not_mem_taken_of_checkAll {ds : List ParameterDeclaration} {index : Nat}
    {taken : List String} {ps : List Parameter} (h : checkAll ds index taken = .ok ps) :
    ∀ p ∈ ps, p.key ∉ taken := by
  induction ds generalizing index taken ps with
  | nil =>
      cases h
      simp
  | cons d ds ih =>
      obtain ⟨p, rest, hp, hrest, rfl⟩ := checkAll_cons h
      intro q hq
      rcases List.mem_cons.mp hq with rfl | hq
      · exact (check_spec hp).1
      · intro htaken
        exact ih hrest q hq (List.mem_append_left _ htaken)

theorem consistent_of_checkAll {ds : List ParameterDeclaration} {index : Nat}
    {taken : List String} {ps : List Parameter} (h : checkAll ds index taken = .ok ps) :
    Parameter.Consistent ps := by
  induction ds generalizing index taken ps with
  | nil =>
      cases h
      exact ⟨List.nodup_nil, by simp⟩
  | cons d ds ih =>
      obtain ⟨p, rest, hp, hrest, rfl⟩ := checkAll_cons h
      have hfresh : p.key ∉ rest.map Parameter.key := by
        intro hmem
        obtain ⟨q, hq, hkey⟩ := List.mem_map.mp hmem
        exact not_mem_taken_of_checkAll hrest q hq (by simp [hkey])
      constructor
      · exact List.nodup_cons.mpr ⟨hfresh, (ih hrest).keys_nodup⟩
      · intro q hq
        rcases List.mem_cons.mp hq with rfl | hq
        · exact (check_spec hp).2
        · exact (ih hrest).hasShape q hq

end ParameterDeclaration

namespace Sheet

/-- The sheets that a panel can be started with: those that were read from a YAML text or
from a file, and the built-in one. -/
inductive Accepted : Sheet → Prop
  | yamlText {source : String} {sheet : Sheet} (h : ofYamlText source = .ok sheet) :
      Accepted sheet
  | file {host : Host} {path : String} {sheet : Sheet} (h : ofFile host path = .ok sheet) :
      Accepted sheet
  | builtIn : Accepted builtIn

theorem consistent_of_ofDeclaration {source : Source} {d : SheetDeclaration} {sheet : Sheet}
    (h : ofDeclaration source d = .ok sheet) : Parameter.Consistent sheet.parameters := by
  rw [ofDeclaration] at h
  obtain ⟨parameters, hchecked, h⟩ := exists_of_bind_eq_ok h
  cases h
  exact ParameterDeclaration.consistent_of_checkAll hchecked

theorem consistent_builtIn : Parameter.Consistent builtIn.parameters := by
  constructor
  · decide
  · intro p hp v hv
    simp only [builtIn, List.mem_cons, List.not_mem_nil, or_false] at hp
    rcases hp with rfl | rfl | rfl | rfl | rfl <;> cases hv <;> trivial

/-- The parameters of every accepted sheet are consistent. -/
theorem Accepted.consistent {sheet : Sheet} (h : Accepted sheet) :
    Parameter.Consistent sheet.parameters := by
  cases h with
  | yamlText h =>
      rw [ofYamlText] at h
      obtain ⟨d, -, h⟩ := exists_of_bind_eq_ok h
      exact consistent_of_ofDeclaration h
  | file h =>
      rw [ofFile] at h
      obtain ⟨source, -, h⟩ := exists_of_bind_eq_ok h
      dsimp only at h
      split at h
      · obtain ⟨d, -, h⟩ := exists_of_bind_eq_ok h
        exact consistent_of_ofDeclaration h
      · obtain ⟨d, -, h⟩ := exists_of_bind_eq_ok h
        exact consistent_of_ofDeclaration h
  | builtIn => exact consistent_builtIn

end Sheet

end DevicePanel
