import DevicePanel.Text.Blank
import Mathlib.Data.List.Forall2

/-!
# The case of letters

Two texts are the same up to the case of letters if they are equally long and have, at each
place, the same character or a capital and its small letter.  Only the 26 letters of ASCII
have a case here.  Texts are the same in this sense exactly if they become equal when their
capitals are made small.

A text is a word of a list if it is the same as a word of it, blanks around the text and the
case of letters apart.
-/

namespace DevicePanel.Text

/-- `small` is the small letter to the capital `c`. -/
def IsCapitalOf (c small : Char) : Prop :=
  'A' ≤ c ∧ c ≤ 'Z' ∧ small.toNat = c.toNat + 32

/-- The characters are equal, or one letter in its two cases. -/
def SameLetter (c d : Char) : Prop := c = d ∨ IsCapitalOf c d ∨ IsCapitalOf d c

/-- The texts differ in nothing but the case of letters. -/
def SameUpToCase (a b : String) : Prop := List.Forall₂ SameLetter a.toList b.toList

/-- Without the blanks around it, the text is one of the words, up to the case of letters. -/
def IsWord (words : List String) (text : String) : Prop :=
  ∃ word ∈ words, SameUpToCase (trim text) word

/-! ## Small letters -/

theorem toList_toLower (s : String) : s.toLower.toList = s.toList.map Char.toLower :=
  String.toList_map

theorem toNat_toLower (c : Char) :
    c.toLower.toNat = if 'A' ≤ c ∧ c ≤ 'Z' then c.toNat + 32 else c.toNat := by
  split
  · next h =>
    have hle : c.toNat ≤ 90 := h.2
    calc c.toLower.toNat
      _ = (c.val + 32).toNat := congrArg Char.toNat (dif_pos h)
      _ = (c.toNat + 32) % 2 ^ 32 := UInt32.toNat_add c.val 32
      _ = c.toNat + 32 := Nat.mod_eq_of_lt (by omega)
  · next h => exact congrArg Char.toNat (dif_neg h)

theorem toLower_eq_iff {c d : Char} : c.toLower = d.toLower ↔ SameLetter c d := by
  have hA (e : Char) : 'A' ≤ e ↔ 65 ≤ e.toNat := Iff.rfl
  have hZ (e : Char) : e ≤ 'Z' ↔ e.toNat ≤ 90 := Iff.rfl
  simp only [← Char.toNat_inj, toNat_toLower, SameLetter, IsCapitalOf, hA, hZ]
  split <;> split <;> omega

theorem sameUpToCase_iff {a b : String} : SameUpToCase a b ↔ a.toLower = b.toLower := by
  have hletter : SameLetter = fun c d => c.toLower = d.toLower := by
    funext c d
    exact propext toLower_eq_iff.symm
  calc SameUpToCase a b
    _ ↔ List.Forall₂ (· = ·) (a.toList.map Char.toLower) (b.toList.map Char.toLower) := by
      rw [SameUpToCase, hletter, List.forall₂_map_left_iff, List.forall₂_map_right_iff]
    _ ↔ a.toLower.toList = b.toLower.toList := by
      rw [List.forall₂_eq_eq_eq, toList_toLower, toList_toLower]
    _ ↔ a.toLower = b.toLower := String.toList_inj

instance (a b : String) : Decidable (SameUpToCase a b) := decidable_of_iff _ sameUpToCase_iff.symm

/-! ## Words -/

/-- Among words in small letters, a text is looked for by its small letters. -/
theorem contains_toLower_iff {words : List String} (hwords : ∀ word ∈ words, word.toLower = word)
    {text : String} : words.contains (trim text).toLower = true ↔ IsWord words text := by
  rw [List.contains_iff_mem]
  constructor
  · intro h
    exact ⟨_, h, sameUpToCase_iff.mpr (hwords _ h).symm⟩
  · rintro ⟨word, hword, hsame⟩
    rwa [sameUpToCase_iff.mp hsame, hwords word hword]

/-- A text is no word of two lists that have no word in common. -/
theorem IsWord.not_isWord {ws vs : List String} (hapart : ∀ w ∈ ws, ∀ v ∈ vs, ¬SameUpToCase w v)
    {text : String} (h : IsWord ws text) : ¬IsWord vs text := by
  rintro ⟨v, hv, hsame⟩
  obtain ⟨w, hw, h⟩ := h
  exact hapart w hw v hv
    (sameUpToCase_iff.mpr ((sameUpToCase_iff.mp h).symm.trans (sameUpToCase_iff.mp hsame)))

end DevicePanel.Text
