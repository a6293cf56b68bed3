import DevicePanel.Text.Blank
import Mathlib.Data.List.DropRight

/-!
# Trimmed texts

Trimming takes away the blanks at both ends and nothing else: a text that has no blank at
its ends comes out of any blanks around it as it is, and trimming makes such a text out of
every text.
-/

namespace DevicePanel.Text

/-- There is no blank at either end. -/
structure Trimmed (cs : List Char) : Prop where
  head : ∀ c, cs.head? = some c → isBlank c = false
  last : ∀ c, cs.getLast? = some c → isBlank c = false

/-- All characters are blank. -/
def Blank (cs : List Char) : Prop := ∀ c ∈ cs, isBlank c = true

instance (cs : List Char) : Decidable (Blank cs) :=
  decidable_of_iff (cs.all isBlank = true) List.all_eq_true

theorem Trimmed.reverse {cs : List Char} (h : Trimmed cs) : Trimmed cs.reverse where
  head c hc := h.last c (by rwa [List.head?_reverse] at hc)
  last c hc := h.head c (by rwa [List.getLast?_reverse] at hc)

theorem trimmed_trimList (cs : List Char) : Trimmed (trimList cs) where
  head c hc := by
    obtain ⟨dropped, hprefix⟩ := List.rdropWhile_prefix isBlank (cs.dropWhile isBlank)
    have hhead : (cs.dropWhile isBlank).head? = some c := by
      rw [← hprefix, List.head?_append]
      exact Option.or_eq_some_iff.mpr (.inl hc)
    have hnot := List.head?_dropWhile_not isBlank cs
    rw [hhead] at hnot
    exact hnot
  last c hc := by
    rw [trimList, List.getLast?_reverse] at hc
    have hnot := List.head?_dropWhile_not isBlank (cs.dropWhile isBlank).reverse
    rw [hc] at hnot
    exact hnot

/-- Blanks in front of a trimmed text are dropped, and what follows it is kept. -/
theorem dropWhile_blank_append {blanks cs : List Char} (hblanks : Blank blanks)
    (h : Trimmed cs) (hne : cs ≠ []) (rest : List Char) :
    (blanks ++ (cs ++ rest)).dropWhile isBlank = cs ++ rest := by
  rw [List.dropWhile_append_of_pos hblanks]
  cases cs with
  | nil => exact absurd rfl hne
  | cons c cs =>
      rw [List.cons_append, List.dropWhile_cons_of_neg (Bool.eq_false_iff.mp (h.head c rfl))]

/-- Trimming takes away the blanks around a trimmed text. -/
theorem trimList_append {before cs after : List Char} (hbefore : Blank before)
    (hafter : Blank after) (h : Trimmed cs) : trimList (before ++ (cs ++ after)) = cs := by
  by_cases hne : cs = []
  · subst hne
    have hblank : Blank (before ++ after) := List.forall_mem_append.mpr ⟨hbefore, hafter⟩
    have hnone : (before ++ after).dropWhile isBlank = [] := List.dropWhile_eq_nil_iff.mpr hblank
    rw [List.nil_append, trimList, hnone]
    rfl
  · have hreverse : Blank after.reverse := fun c hc => hafter c (List.mem_reverse.mp hc)
    have hlast := dropWhile_blank_append hreverse h.reverse (by simpa using hne) []
    rw [List.append_nil] at hlast
    rw [trimList, dropWhile_blank_append hbefore h hne, List.reverse_append,
      hlast, List.reverse_reverse]

theorem trim_append {before after : List Char} (hbefore : Blank before) (hafter : Blank after)
    {s : String} (h : Trimmed s.toList) :
    trim (String.ofList before ++ s ++ String.ofList after) = s := by
  have hchars : (String.ofList before ++ s ++ String.ofList after).toList =
      before ++ (s.toList ++ after) := by
    rw [String.toList_append, String.toList_append, String.toList_ofList,
      String.toList_ofList, List.append_assoc]
  rw [trim, hchars, trimList_append hbefore hafter h, String.ofList_toList]

theorem trim_trim (s : String) : trim (trim s) = trim s := by
  have htrimmed := trimList_append (fun _ hc => absurd hc List.not_mem_nil)
    (fun _ hc => absurd hc List.not_mem_nil) (trimmed_trimList s.toList)
  rw [List.nil_append, List.append_nil] at htrimmed
  rw [trim, trim, String.toList_ofList, htrimmed]

end DevicePanel.Text
