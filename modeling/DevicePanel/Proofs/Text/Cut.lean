import DevicePanel.LineBuffer.Indexed
import Mathlib.Data.String.Basic
import Mathlib.Order.Bounds.Basic

/-!
# Cutting texts at bytes

A text can be cut after each of its characters, counted in bytes, and nowhere else.  From
any byte of the text the next place to cut is found by going back, since the start of the
text is one; it is the greatest place up to that byte.
-/

namespace DevicePanel.Text

open String (utf8Len)

theorem byteLength_eq (cs : List Char) : byteLength cs = utf8Len cs := by
  induction cs with
  | nil => rfl
  | cons c cs ih => rw [byteLength_cons, ih, String.utf8Len_cons, Nat.add_comm]

/-! ## Places to cut -/

theorem pos?_eq (s : String) (p : String.Pos.Raw) :
    s.pos? p = if h : p.IsValid s then some ⟨p, h⟩ else none := by
  rw [String.pos?, String.Slice.pos?]
  split
  · next h =>
      rw [String.Pos.Raw.isValidForSlice_eq_true_iff,
        String.Pos.Raw.isValidForSlice_toSlice_iff] at h
      rw [dif_pos h]
      rfl
  · next h =>
      rw [String.Pos.Raw.isValidForSlice_eq_true_iff,
        String.Pos.Raw.isValidForSlice_toSlice_iff] at h
      rw [dif_neg h]
      rfl

theorem cut?_eq_some_iff {s before behind : String} {bytes : Nat} :
    cut? s bytes = some (before, behind) ↔
      s = before ++ behind ∧ bytes = before.utf8ByteSize := by
  rw [cut?, pos?_eq]
  constructor
  · intro h
    split at h
    · next hvalid =>
        cases h
        have hsplits := String.Pos.splits ⟨⟨bytes⟩, hvalid⟩
        exact ⟨hsplits.eq_append, congrArg String.Pos.Raw.byteIdx hsplits.offset_eq_rawEndPos⟩
    · cases h
  · rintro ⟨rfl, rfl⟩
    have hvalid : String.Pos.Raw.IsValid (before ++ behind) ⟨before.utf8ByteSize⟩ :=
      String.Pos.Raw.isValid_iff_exists_append.mpr ⟨before, behind, rfl, rfl⟩
    have hsplits : String.Pos.Splits ⟨⟨before.utf8ByteSize⟩, hvalid⟩ before behind := ⟨rfl, rfl⟩
    rw [dif_pos hvalid, Option.map_some, hsplits.copy_sliceTo_eq, hsplits.copy_sliceFrom_eq]

theorem cut?_append (before behind : List Char) :
    cut? (String.ofList (before ++ behind)) (utf8Len before) =
      some (String.ofList before, String.ofList behind) := by
  rw [cut?_eq_some_iff, String.ofList_append, String.utf8ByteSize_ofList]
  exact ⟨rfl, rfl⟩

/-- What stands between two places to cut can be cut out. -/
theorem cutOut?_append (before middle behind : List Char) :
    cutOut? (String.ofList (before ++ (middle ++ behind))) (utf8Len before)
        (utf8Len before + utf8Len middle) =
      some (String.ofList (before ++ behind)) := by
  have hstop := cut?_append (before ++ middle) behind
  rw [List.append_assoc, String.utf8Len_append] at hstop
  rw [cutOut?, if_pos (Nat.le_add_right _ _), cut?_append, hstop]
  simp [String.ofList_append]

theorem stepBack?_add (place bytes : Nat) : stepBack? (place + bytes) bytes = some place := by
  rw [stepBack?, if_pos (Nat.le_add_left bytes place), Nat.add_sub_cancel]

/-! ## The last place up to a byte -/

theorem isValid_utf8Len (before behind : List Char) :
    String.Pos.Raw.IsValid (String.ofList (before ++ behind)) ⟨utf8Len before⟩ := by
  rw [String.Pos.Raw.isValid_iff_exists_append]
  refine ⟨String.ofList before, String.ofList behind, String.ofList_append, ?_⟩
  rw [String.rawEndPos, String.utf8ByteSize_ofList]

/-- No place to cut is within a character. -/
theorem le_or_le_of_isValid {before behind : List Char} {c : Char} {place : Nat}
    (h : String.Pos.Raw.IsValid (String.ofList (before ++ c :: behind)) ⟨place⟩) :
    place ≤ utf8Len before ∨ utf8Len before + c.utf8Size ≤ place := by
  obtain ⟨s, t, htext, hplace⟩ := String.Pos.Raw.isValid_iff_exists_append.mp h
  have hsize : place = utf8Len s.toList := by
    rw [String.utf8Len_toList]
    exact congrArg String.Pos.Raw.byteIdx hplace
  have hchars : before ++ c :: behind = s.toList ++ t.toList := by
    rw [← String.toList_append, ← htext, String.toList_ofList]
  rcases List.append_eq_append_iff.mp hchars with ⟨more, hs, hbehind⟩ | ⟨more, hbefore, -⟩
  · cases more with
    | nil =>
        left
        rw [hsize, hs, List.append_nil]
    | cons d more =>
        obtain ⟨rfl, -⟩ := List.cons.inj hbehind
        right
        rw [hsize, hs, String.utf8Len_append, String.utf8Len_cons]
        omega
  · left
    rw [hsize, hbefore, String.utf8Len_append]
    exact Nat.le_add_right _ _

/-- No place to cut is behind the text. -/
theorem places_min_eq (s : String) (bytes : Nat) :
    {m | m ≤ min bytes s.utf8ByteSize ∧ String.Pos.Raw.IsValid s ⟨m⟩} =
      {m | m ≤ bytes ∧ String.Pos.Raw.IsValid s ⟨m⟩} := by
  ext m
  constructor
  · rintro ⟨hm, hvalid⟩
    exact ⟨hm.trans (Nat.min_le_left _ _), hvalid⟩
  · rintro ⟨hm, hvalid⟩
    exact ⟨Nat.le_min.mpr ⟨hm, hvalid.le_utf8ByteSize⟩, hvalid⟩

/-- Going back from a byte ends at the greatest place to cut. -/
theorem isGreatest_lastPlace (s : String) (bytes : Nat) :
    ∃ place, lastPlace? s bytes = some place ∧
      IsGreatest {m | m ≤ bytes ∧ String.Pos.Raw.IsValid s ⟨m⟩} place := by
  by_cases h : String.Pos.Raw.isValid s ⟨bytes⟩ = true
  · refine ⟨bytes, ?_, ⟨Nat.le_refl bytes, String.Pos.Raw.isValid_eq_true_iff.mp h⟩, ?_⟩
    · rw [lastPlace?.eq_def, if_pos h]
    · intro m hm
      exact hm.1
  · cases bytes with
    | zero => exact absurd (String.Pos.Raw.isValid_eq_true_iff.mpr String.Pos.Raw.isValid_zero) h
    | succ bytes =>
        obtain ⟨place, hplace, hmem, hgreatest⟩ := isGreatest_lastPlace s bytes
        refine ⟨place, ?_, ⟨Nat.le_succ_of_le hmem.1, hmem.2⟩, ?_⟩
        · rw [lastPlace?, if_neg h, hplace]
        · rintro m ⟨hm, hvalid⟩
          have hne : m ≠ bytes + 1 := by
            rintro rfl
            exact h (String.Pos.Raw.isValid_eq_true_iff.mpr hvalid)
          exact hgreatest ⟨by omega, hvalid⟩

end DevicePanel.Text
