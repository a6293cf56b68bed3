import DevicePanel.Json.Basic
import Mathlib.Data.List.Induction
import Mathlib.Data.String.Basic

/-!
# The structure of JSON values

A value is ordered if every object in it holds its fields in the order of their keys, each
key once, and integral if every number in it is an exact integer.  Both are said of all
values in a value; how deep these are nested is its depth.

Objects that are built from fields one by one are ordered, and building an object from
fields in order gives these fields back.
-/

namespace DevicePanel.Json

variable {p q : Json → Prop} {v : Json} {items : List Json} {fields : List (String × Json)}

/-! ## The values in a value -/

/-- The items of an array, or the values of the fields of an object. -/
def children : Json → List Json
  | .array items => items
  | .object fields => fields.map (·.2)
  | _ => []

/-- The value and all values in it have a property. -/
inductive All (p : Json → Prop) : Json → Prop
  | intro {v : Json} (here : p v) (inside : ∀ w ∈ v.children, All p w) : All p v

theorem All.here (h : v.All p) : p v := by
  cases h with
  | intro here _ => exact here

theorem All.inside (h : v.All p) : ∀ w ∈ v.children, w.All p := by
  cases h with
  | intro _ inside => exact inside

theorem All.of_childless (here : p v) (h : v.children = []) : v.All p :=
  .intro here fun _ hw => absurd (h ▸ hw) List.not_mem_nil

/-! ## Depth -/

mutual

/-- How deep arrays and objects are nested in a value. -/
def depth : Json → Nat
  | .array items => itemsDepth items + 1
  | .object fields => fieldsDepth fields + 1
  | _ => 0

def itemsDepth : List Json → Nat
  | [] => 0
  | v :: rest => max v.depth (itemsDepth rest)

def fieldsDepth : List (String × Json) → Nat
  | [] => 0
  | (_, v) :: rest => max v.depth (fieldsDepth rest)

end

theorem itemsDepth_le_iff {d : Nat} : itemsDepth items ≤ d ↔ ∀ v ∈ items, v.depth ≤ d := by
  induction items with
  | nil => simp [itemsDepth]
  | cons v items ih => rw [itemsDepth, Nat.max_le, ih, List.forall_mem_cons]

theorem fieldsDepth_eq (fields : List (String × Json)) :
    fieldsDepth fields = itemsDepth (fields.map (·.2)) := by
  induction fields with
  | nil => rfl
  | cons f fields ih => rw [fieldsDepth, ih, List.map_cons, itemsDepth]

/-- Values inside a value are nested less deep. -/
theorem depth_le_succ_iff {d : Nat} : v.depth ≤ d + 1 ↔ ∀ w ∈ v.children, w.depth ≤ d := by
  cases v with
  | array items => rw [depth, Nat.add_le_add_iff_right, itemsDepth_le_iff, children]
  | object fields =>
      rw [depth, Nat.add_le_add_iff_right, fieldsDepth_eq, itemsDepth_le_iff, children]
  | _ => simp [depth, children]

/-! ## Order and exactness -/

/-- Fields in the order of their keys, each key once. -/
def SortedFields (fields : List (String × Json)) : Prop := fields.Pairwise (·.1 < ·.1)

instance (fields : List (String × Json)) : Decidable (SortedFields fields) :=
  inferInstanceAs (Decidable (fields.Pairwise (·.1 < ·.1)))

/-- Every object holds its fields in the order of their keys, each key once. -/
def Ordered (v : Json) : Prop :=
  v.All fun
    | .object fields => SortedFields fields
    | _ => True

/-- Every number is an exact integer of the 64-bit range. -/
def Integral (v : Json) : Prop :=
  v.All fun
    | .number (.float _) => False
    | _ => True

/-! ## Fields -/

theorem mem_insert {key : String} {value : Json} {f : String × Json}
    (h : f ∈ insert key value fields) : f = (key, value) ∨ f ∈ fields := by
  induction fields with
  | nil => exact .inl (List.mem_singleton.mp h)
  | cons first rest ih =>
      rw [insert] at h
      split at h
      · exact List.mem_cons.mp h
      split at h
      · exact (List.mem_cons.mp h).imp_right (List.mem_cons_of_mem first)
      · rcases List.mem_cons.mp h with rfl | hrest
        · exact .inr List.mem_cons_self
        · exact (ih hrest).imp_right (List.mem_cons_of_mem first)

/-- Putting a field into its place keeps the order. -/
theorem SortedFields.insert {key : String} {value : Json} (h : SortedFields fields) :
    SortedFields (insert key value fields) := by
  induction fields with
  | nil => exact List.pairwise_singleton _ _
  | cons first rest ih =>
      obtain ⟨hfirst, hrest⟩ := List.pairwise_cons.mp h
      rw [Json.insert]
      split
      · next hlt =>
          refine List.pairwise_cons.mpr ⟨fun f hf => ?_, h⟩
          rcases List.mem_cons.mp hf with rfl | hf
          · exact hlt
          · exact lt_trans hlt (hfirst f hf)
      split
      · next hnot heq =>
          rw [beq_iff_eq] at heq
          exact List.pairwise_cons.mpr ⟨fun f hf => heq ▸ hfirst f hf, hrest⟩
      · next hnot hne =>
          have hlt : first.1 < key :=
            lt_of_le_of_ne (not_lt.mp hnot) fun heq => hne (beq_iff_eq.mpr heq.symm)
          refine List.pairwise_cons.mpr ⟨fun f hf => ?_, ih hrest⟩
          rcases mem_insert hf with rfl | hf
          · exact hlt
          · exact hfirst f hf

/-- A field whose key comes after all others goes to the end. -/
theorem insert_of_last {key : String} {value : Json} (h : ∀ f ∈ fields, f.1 < key) :
    insert key value fields = fields ++ [(key, value)] := by
  induction fields with
  | nil => rfl
  | cons first rest ih =>
      have hlt : first.1 < key := h first List.mem_cons_self
      rw [insert, if_neg (lt_asymm hlt), if_neg (by simpa using hlt.ne'),
        ih fun f hf => h f (List.mem_cons_of_mem first hf), List.cons_append]

/-- The fields of an object that is built from `fields`, in their order. -/
def sortFields (fields : List (String × Json)) : List (String × Json) :=
  fields.foldl (fun sorted (k, v) => insert k v sorted) []

theorem ofFields_eq (fields : List (String × Json)) : ofFields fields = .object (sortFields fields) :=
  rfl

theorem sortFields_concat (fields : List (String × Json)) (f : String × Json) :
    sortFields (fields ++ [f]) = insert f.1 f.2 (sortFields fields) := by
  rw [sortFields, List.foldl_append]
  rfl

theorem sortedFields_sortFields (fields : List (String × Json)) :
    SortedFields (sortFields fields) := by
  induction fields using List.reverseRecOn with
  | nil => exact .nil
  | append_singleton fields f ih =>
      rw [sortFields_concat]
      exact ih.insert

theorem mem_sortFields {f : String × Json} (h : f ∈ sortFields fields) : f ∈ fields := by
  induction fields using List.reverseRecOn with
  | nil => exact h
  | append_singleton fields g ih =>
      rw [sortFields_concat] at h
      rcases mem_insert h with rfl | h
      · exact List.mem_append_right fields List.mem_cons_self
      · exact List.mem_append_left _ (ih h)

/-- Fields in order stay as they are. -/
theorem SortedFields.sortFields_eq (h : SortedFields fields) : sortFields fields = fields := by
  induction fields using List.reverseRecOn with
  | nil => rfl
  | append_singleton fields f ih =>
      obtain ⟨hinit, -, hlast⟩ := List.pairwise_append.mp h
      rw [sortFields_concat, ih hinit, insert_of_last fun g hg => hlast g hg f List.mem_cons_self]

end DevicePanel.Json
