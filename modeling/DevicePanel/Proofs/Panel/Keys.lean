import DevicePanel.Panel.Basic

/-!
# Entries under their keys

Where the keys of a panel's entries are distinct, a key finds the one entry that has it,
and a commit under that key is taken over by this entry alone.
-/

namespace DevicePanel
namespace Panel

variable {p : Panel}

theorem entry?_of_selected {i : Nat} (h : p.selected = some i) :
    p.entry? = p.entries[i]? := by
  unfold entry?
  rw [h]
  rfl

theorem mem_of_selected {entry : Entry} (h : p.entry? = some entry) : entry ∈ p.entries := by
  obtain ⟨i, -, hi⟩ := Option.bind_eq_some_iff.mp h
  exact List.mem_of_getElem? hi

theorem find?_of_nodup (hkeys : (p.entries.map Entry.key).Nodup) {entry : Entry}
    (h : entry ∈ p.entries) : p.find? entry.key = some entry := by
  rw [find?]
  generalize p.entries = entries at hkeys h
  induction entries with
  | nil => cases h
  | cons e rest ih =>
      rw [List.map_cons, List.nodup_cons] at hkeys
      rcases List.mem_cons.mp h with rfl | h
      · rw [List.find?_cons_of_pos (by simp)]
      · have hne : e.key ≠ entry.key := by
          intro heq
          exact hkeys.1 (heq ▸ List.mem_map_of_mem h)
        rw [List.find?_cons_of_neg (by simpa using hne)]
        exact ih hkeys.2 h

/-- Where keys are distinct, entries with the same key have the same place. -/
theorem index_of_key (hkeys : (p.entries.map Entry.key).Nodup) {i j : Nat} {e e' : Entry}
    (hi : p.entries[i]? = some e) (hj : p.entries[j]? = some e') (hkey : e.key = e'.key) :
    i = j := by
  obtain ⟨hlt, -⟩ := List.getElem?_eq_some_iff.mp hi
  refine (List.getElem?_inj (by simpa using hlt) hkeys).mp ?_
  rw [List.getElem?_map, List.getElem?_map, hi, hj, Option.map_some, Option.map_some, hkey]

/-- An entry that is put in the place of another one is found there. -/
theorem found_set {entries : List Entry} {i : Nat} {e : Entry} (h : entries[i]? = some e)
    (e' : Entry) : (entries.set i e')[i]? = some e' := by
  obtain ⟨hi, -⟩ := List.getElem?_eq_some_iff.mp h
  exact List.getElem?_set_self hi

/-- A commit under the key of an entry is taken over by that entry and by no other. -/
theorem commit?_of_nodup (hkeys : (p.entries.map Entry.key).Nodup) {i : Nat} {entry : Entry}
    (h : p.entries[i]? = some entry) (v : Value) :
    p.commit? ⟨entry.key, v⟩ =
      some { p with entries := p.entries.set i (entry.commit v) } := by
  have hmem : entry ∈ p.entries := List.mem_of_getElem? h
  have hknown : p.entries.any (·.key == entry.key) = true :=
    List.any_eq_true.mpr ⟨entry, hmem, by simp⟩
  rw [commit?, if_pos hknown]
  congr 2
  apply List.ext_getElem?
  intro j
  rw [List.getElem?_map]
  by_cases hij : i = j
  · subst hij
    rw [h, found_set h]
    simp
  · rw [List.getElem?_set_ne hij]
    cases hj : p.entries[j]? with
    | none => rfl
    | some e =>
        have hne : e.key ≠ entry.key := fun hkey => hij (index_of_key hkeys hj h hkey).symm
        simp [hne]

/-- A commit is dropped only when no entry has its key. -/
theorem exists_commit? {c : Commit} (h : c.key ∈ p.entries.map Entry.key) :
    ∃ q, p.commit? c = some q := by
  obtain ⟨entry, hentry, hkey⟩ := List.mem_map.mp h
  have hknown : p.entries.any (·.key == c.key) = true :=
    List.any_eq_true.mpr ⟨entry, hentry, by simp [hkey]⟩
  rw [commit?, if_pos hknown]
  exact ⟨_, rfl⟩

/-- What two entries have in common is still there when one replaces the other. -/
theorem map_set_of_eq {α : Type} (g : Entry → α) {entries : List Entry} {i : Nat}
    {entry e : Entry} (h : entries[i]? = some entry) (hg : g e = g entry) :
    (entries.set i e).map g = entries.map g := by
  apply List.ext_getElem?
  intro j
  rw [List.getElem?_map, List.getElem?_map]
  by_cases hij : i = j
  · subst hij
    rw [h, found_set h, Option.map_some, Option.map_some, hg]
  · rw [List.getElem?_set_ne hij]

end Panel
end DevicePanel
