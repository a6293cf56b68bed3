import DevicePanel.Proofs.Json.ReadBack

/-!
# The structure of what is read

Every value that a text is read as is ordered and nested at most as deep as the reader goes,
whatever the order and the repetitions of the keys in the text.  So what is read can be
written and read again, unless a number in it is a float.
-/

namespace DevicePanel.Json

variable {item : Reader} {d : Nat}

/-- The value is ordered and nested at most `d` deep. -/
structure Fits (d : Nat) (v : Json) : Prop where
  ordered : v.Ordered
  depth_le : v.depth ≤ d

theorem fits_array {items : List Json} (h : ∀ v ∈ items, Fits d v) :
    Fits (d + 1) (.array items) where
  ordered := .intro trivial fun v hv => (h v hv).ordered
  depth_le := depth_le_succ_iff.mpr fun v hv => (h v hv).depth_le

theorem fits_ofFields {fields : List (String × Json)} (h : ∀ f ∈ fields, Fits d f.2) :
    Fits (d + 1) (ofFields fields) := by
  have hinside : ∀ v ∈ (ofFields fields).children, Fits d v := by
    intro v hv
    obtain ⟨f, hf, rfl⟩ := List.mem_map.mp hv
    exact h f (mem_sortFields hf)
  exact ⟨.intro (sortedFields_sortFields fields) fun v hv => (hinside v hv).ordered,
    depth_le_succ_iff.mpr fun v hv => (hinside v hv).depth_le⟩

/-- All that a reader gives fits. -/
def Gives (item : Reader) (p : Json → Prop) : Prop :=
  ∀ s v rest, item s = .ok (v, rest) → p v

variable {p : Json → Prop}

theorem forall_mem_of_readItems (hitem : Gives item p) {fuel : Nat} {done items : List Json}
    {s rest : List Char} (hdone : ∀ v ∈ done, p v)
    (h : readItems item fuel done s = .ok (items, rest)) : ∀ v ∈ items, p v := by
  induction fuel generalizing done s with
  | zero => cases h
  | succ fuel ih =>
      rw [readItems] at h
      split at h
      · cases h
      · obtain ⟨_, -, hpair⟩ := exists_of_map_eq_ok h
        cases hpair
        exact fun v hv => hdone v (List.mem_reverse.mp hv)
      split at h
      · cases h
      · next hv => exact ih (List.forall_mem_cons.mpr ⟨hitem _ _ _ hv, hdone⟩) h

theorem Gives.readField (hitem : Gives item p) {f : String × Json} {s rest : List Char}
    (h : readField item s = .ok (f, rest)) : p f.2 := by
  obtain ⟨⟨key, r⟩, -, h⟩ := exists_of_bind_eq_ok h
  obtain ⟨r', -, h⟩ := exists_of_bind_eq_ok h
  obtain ⟨⟨v, r''⟩, hv, hpair⟩ := exists_of_bind_eq_ok h
  cases hpair
  exact hitem _ _ _ hv

theorem forall_mem_of_readFields (hitem : Gives item p) {fuel : Nat}
    {done fields : List (String × Json)} {s rest : List Char} (hdone : ∀ f ∈ done, p f.2)
    (h : readFields item fuel done s = .ok (fields, rest)) : ∀ f ∈ fields, p f.2 := by
  induction fuel generalizing done s with
  | zero => cases h
  | succ fuel ih =>
      rw [readFields_succ] at h
      split at h
      · cases h
      · obtain ⟨_, -, hpair⟩ := exists_of_map_eq_ok h
        cases hpair
        exact fun f hf => hdone f (List.mem_reverse.mp hf)
      split at h
      · cases h
      · next hf => exact ih (List.forall_mem_cons.mpr ⟨hitem.readField hf, hdone⟩) h

/-- One level of the reader: with a reader for the inner values it goes one deeper. -/
theorem gives_readWith (outer : Option Reader)
    (houter : ∀ item, outer = some item → ∃ e, d = e + 1 ∧ Gives item (Fits e)) :
    Gives (readWith outer) (Fits d) := by
  intro s v rest h
  have hflat : ∀ {β : Type} {x : Except Fault β} {f : β → Json × List Char},
      (∀ b, (f b).1.Ordered ∧ (f b).1.depth = 0) → x.map f = .ok (v, rest) → Fits d v := by
    intro β x f hf hmap
    obtain ⟨b, -, hpair⟩ := exists_of_map_eq_ok hmap
    obtain ⟨hordered, hdepth⟩ := hf b
    rw [hpair] at hordered hdepth
    exact ⟨hordered, hdepth ▸ Nat.zero_le d⟩
  rw [readWith] at h
  split at h
  · cases h
  split at h
  · exact hflat (fun _ => ⟨.of_childless trivial rfl, rfl⟩) h
  · exact hflat (fun _ => ⟨.of_childless trivial rfl, rfl⟩) h
  · exact hflat (fun _ => ⟨.of_childless trivial rfl, rfl⟩) h
  · exact hflat (fun _ => ⟨.of_childless trivial rfl, rfl⟩) h
  · split at h
    · cases h
    · obtain ⟨⟨items, _⟩, hitems, hpair⟩ := exists_of_map_eq_ok h
      cases hpair
      obtain ⟨e, rfl, hitem⟩ := houter _ rfl
      exact fits_array (forall_mem_of_readItems hitem (List.forall_mem_nil _) hitems)
  · split at h
    · cases h
    · obtain ⟨⟨fields, _⟩, hfields, hpair⟩ := exists_of_map_eq_ok h
      cases hpair
      obtain ⟨e, rfl, hitem⟩ := houter _ rfl
      exact fits_ofFields (forall_mem_of_readFields hitem (List.forall_mem_nil _) hfields)
  · split at h
    · exact hflat (fun _ => ⟨.of_childless trivial rfl, rfl⟩) h
    · cases h

theorem gives_readValue (d : Nat) : Gives (readValue d) (Fits d) := by
  induction d with
  | zero => exact gives_readWith none fun _ h => nomatch h
  | succ d ih => exact gives_readWith _ fun _ h => ⟨d, rfl, Option.some.inj h ▸ ih⟩

theorem fits_of_read {s : String} {v : Json} (h : read s = .ok v) : Fits maxDepth v := by
  have hchars := eq_ok_of_mapError_eq_ok h
  obtain ⟨⟨w, rest⟩, hvalue, hend⟩ := exists_of_bind_eq_ok hchars
  obtain ⟨_, -, hw⟩ := exists_of_bind_eq_ok hend
  cases hw
  exact gives_readValue maxDepth _ _ _ hvalue

end DevicePanel.Json
