import DevicePanel.Json.Printer
import DevicePanel.Json.Reader
import DevicePanel.Proofs.Support.Except
import DevicePanel.Text.Blank
import Mathlib.Data.List.TakeWhile

/-!
# Whole numbers in JSON text

A text of decimal digits is read as the whole number that the digits stand for, as long as
that number has 64 bits; a greater one is read as a float.  Conversely only a natural
number is written with digits alone: the text of a negative number begins with a minus,
and the text of a float has a point or an exponent.
-/

namespace DevicePanel.Json

/-- The number that decimal digits stand for. -/
def digitsValue (cs : List Char) : Nat := Nat.ofDigitChars 10 cs 0

/-! ## Reading digits -/

theorem le_ofDigitChars (cs : List Char) (n : Nat) : n ≤ Nat.ofDigitChars 10 cs n := by
  rw [Nat.ofDigitChars_eq_ofDigitChars_zero]
  have hpow : 1 ≤ 10 ^ cs.length := Nat.pow_pos (by decide)
  calc n = 1 * n := (Nat.one_mul n).symm
    _ ≤ 10 ^ cs.length * n := Nat.mul_le_mul_right n hpow
    _ ≤ 10 ^ cs.length * n + Nat.ofDigitChars 10 cs 0 := Nat.le_add_right _ _

theorem ofDigitChars_cons_digitValue (c : Char) (cs : List Char) (n : Nat) :
    Nat.ofDigitChars 10 (c :: cs) n = Nat.ofDigitChars 10 cs (n * 10 + digitValue c) := by
  rw [Nat.ofDigitChars_cons, Nat.mul_comm 10 n]
  rfl

theorem digitsValue_cons (c : Char) (cs : List Char) :
    digitsValue (c :: cs) = Nat.ofDigitChars 10 cs (digitValue c) := by
  rw [digitsValue, ofDigitChars_cons_digitValue, Nat.zero_mul, Nat.zero_add]

theorem digitValue_lt {c : Char} (hc : c.isDigit = true) : digitValue c < 10 := by
  have hle : c.toNat ≤ 57 := (Char.isDigit_iff_toNat.mp hc).2
  rw [digitValue]
  omega

/-- Digits are read to their end, or up to a digit that makes the number pass the
limit. -/
theorem readDigits_of_digits {limit n : Nat} (hn : n ≤ limit) (count : Nat) {cs : List Char}
    (hcs : ∀ c ∈ cs, c.isDigit = true) :
    ∃ m k rest, readDigits limit n count cs = (m, k, rest) ∧
      (∀ c ∈ rest, c.isDigit = true) ∧
      (rest = [] ∧ m = Nat.ofDigitChars 10 cs n ∧ m ≤ limit ∨
        rest ≠ [] ∧ limit < Nat.ofDigitChars 10 cs n) := by
  induction cs generalizing n count with
  | nil => exact ⟨n, count, [], rfl, hcs, .inl ⟨rfl, rfl, hn⟩⟩
  | cons c cs ih =>
      rw [readDigits, ofDigitChars_cons_digitValue]
      by_cases hfits : n * 10 + digitValue c ≤ limit
      · have hstep : (c.isDigit && decide (n * 10 + digitValue c ≤ limit)) = true := by
          simp [hcs c List.mem_cons_self, hfits]
        rw [if_pos hstep]
        exact ih hfits (count + 1) fun d hd => hcs d (List.mem_cons_of_mem c hd)
      · have hstop : ¬ (c.isDigit && decide (n * 10 + digitValue c ≤ limit)) = true := by
          simp [hfits]
        rw [if_neg hstop]
        refine ⟨n, count, c :: cs, rfl, hcs, .inr ⟨List.cons_ne_nil c cs, ?_⟩⟩
        exact Nat.lt_of_lt_of_le (Nat.not_le.mp hfits) (le_ofDigitChars cs _)

theorem startsWithDigit_of_digits {cs : List Char} (hcs : ∀ c ∈ cs, c.isDigit = true)
    (hne : cs ≠ []) : startsWithDigit cs = true := by
  cases cs with
  | nil => exact absurd rfl hne
  | cons c cs => exact hcs c List.mem_cons_self

/-! ## Whole numbers -/

theorem toNat?_wholeNumber {n : Nat} (h : n ≤ maxSignificand) :
    (wholeNumber false n).toNat? = some n := by
  -- The integer has a name of its own, so that its range is not decided by computation.
  obtain ⟨i, hi⟩ : ∃ i : Int, (n : Int) = i := ⟨_, rfl⟩
  have hrange : -9223372036854775808 ≤ i ∧ i < 18446744073709551616 := by
    rw [maxSignificand] at h
    omega
  have hexact : Number.ofInt? i = some (.integer i hrange) := dif_pos hrange
  have hwhole : wholeNumber false n = .integer i hrange := by
    rw [wholeNumber, Bool.false_and, if_neg Bool.false_ne_true, if_neg Bool.false_ne_true,
      hi, hexact]
  rw [hwhole]
  subst hi
  rfl

theorem toNat?_scaledNumber {significand : Nat} {exponent : Int} {s rest : List Char}
    {n : Number} (h : scaledNumber false significand exponent s = .ok (n, rest)) :
    n.toNat? = none := by
  rw [scaledNumber] at h
  split at h
  · cases h
    rfl
  · cases h

/-- What is left of digits is no whole number any more. -/
theorem toNat?_readLongWhole {significand : Nat} {cs rest : List Char} {n : Number}
    (hcs : ∀ c ∈ cs, c.isDigit = true)
    (h : readLongWhole false significand cs = .ok (n, rest)) : n.toNat? = none := by
  rw [readLongWhole, List.dropWhile_eq_nil_iff.mpr hcs] at h
  exact toNat?_scaledNumber h

/-- The number that is read from digits is the one that they stand for, or a float when
that has more than 64 bits. -/
theorem toNat?_readNumber {cs rest : List Char} {n : Number}
    (hcs : ∀ c ∈ cs, c.isDigit = true) (h : readNumber cs = .ok (n, rest)) :
    n.toNat? = if digitsValue cs ≤ maxSignificand then some (digitsValue cs) else none := by
  cases cs with
  | nil => cases h
  | cons c cs =>
      have hc : c.isDigit = true := hcs c List.mem_cons_self
      have hrest : ∀ d ∈ cs, d.isDigit = true :=
        fun d hd => hcs d (List.mem_cons_of_mem c hd)
      have hunsigned : readNumber (c :: cs) = readUnsigned false (c :: cs) := by
        rw [readNumber]
        intro r hminus
        cases hminus
        cases hc
      rw [hunsigned, readUnsigned] at h
      by_cases hzero : c = '0'
      · -- A zero may have no digit behind it.
        subst hzero
        rw [if_pos (beq_self_eq_true '0')] at h
        cases cs with
        | nil =>
            cases h
            rfl
        | cons d cs =>
            rw [if_pos (startsWithDigit_of_digits hrest (List.cons_ne_nil d cs))] at h
            cases h
      · rw [if_neg (by simpa using hzero), if_pos hc] at h
        have hdigit : digitValue c ≤ maxSignificand :=
          (digitValue_lt hc).le.trans (by decide)
        obtain ⟨m, k, left, hread, hleft, hend⟩ := readDigits_of_digits hdigit 0 hrest
        rw [hread] at h
        dsimp only at h
        rw [digitsValue_cons]
        rcases hend with ⟨rfl, hm, hfits⟩ | ⟨hne, hlarge⟩
        · have hwhole : readAfterWhole false m [] = .ok (wholeNumber false m, []) := rfl
          rw [if_neg (by decide : ¬ startsWithDigit [] = true), hwhole] at h
          obtain ⟨hn, -⟩ := Prod.mk.inj (Except.ok.inj h)
          rw [← hn, ← hm, if_pos hfits]
          exact toNat?_wholeNumber hfits
        · rw [if_pos (startsWithDigit_of_digits hleft hne)] at h
          rw [if_neg (Nat.not_le.mpr hlarge)]
          exact toNat?_readLongWhole hleft h

/-! ## Texts of digits -/

/-- The blanks between tokens are among the blanks around texts. -/
theorem isBlank_text_of_isBlank {c : Char} (h : isBlank c = true) : Text.isBlank c = true := by
  simp only [isBlank, Bool.or_eq_true, beq_iff_eq] at h
  rcases h with ((rfl | rfl) | rfl) | rfl <;> rfl

theorem isBlank_eq_false {c : Char} (h : Text.isBlank c = false) : isBlank c = false := by
  by_contra hblank
  rw [isBlank_text_of_isBlank (by simpa using hblank)] at h
  cases h

theorem isBlank_text_of_digit {c : Char} (hc : c.isDigit = true) : Text.isBlank c = false := by
  have hrange : 48 ≤ c.toNat ∧ c.toNat ≤ 57 := Char.isDigit_iff_toNat.mp hc
  simp [Text.isBlank]
  omega

theorem skipBlanks_of_not_blank {c : Char} (hc : isBlank c = false) (cs : List Char) :
    skipBlanks (c :: cs) = c :: cs := by
  rw [skipBlanks, List.dropWhile_cons_of_neg (by simp [hc])]

/-- What begins with a digit is read as a number. -/
theorem readWith_of_digit (item : Option (List Char → Except Fault (Json × List Char)))
    {c : Char} (hc : c.isDigit = true) (cs : List Char) :
    readWith item (c :: cs) =
      (readNumber (c :: cs)).map fun (n, rest) => (.number n, rest) := by
  rw [readWith, skipBlanks_of_not_blank (isBlank_eq_false (isBlank_text_of_digit hc))]
  dsimp only
  split
  · cases hc
  · cases hc
  · cases hc
  · cases hc
  · cases hc
  · cases hc
  · rw [if_pos (by simp [hc])]

/-- A text of digits is read as the number that they stand for, or as a float when that
has more than 64 bits. -/
theorem toNat?_read {s : String} {n : Number} (hs : ∀ c ∈ s.toList, c.isDigit = true)
    (h : read s = .ok (.number n)) :
    n.toNat? = if digitsValue s.toList ≤ maxSignificand then some (digitsValue s.toList)
      else none := by
  rw [read] at h
  generalize s.toList = cs at h hs ⊢
  have hchars := eq_ok_of_mapError_eq_ok h
  rw [readChars] at hchars
  obtain ⟨⟨v, rest⟩, hvalue, hend⟩ := exists_of_bind_eq_ok hchars
  obtain ⟨_, -, hv⟩ := exists_of_bind_eq_ok hend
  cases hv
  cases cs with
  | nil => cases hvalue
  | cons c cs =>
      rw [maxDepth, readValue, readWith_of_digit _ (hs c List.mem_cons_self)] at hvalue
      obtain ⟨⟨m, left⟩, hnumber, hpair⟩ := exists_of_map_eq_ok hvalue
      cases hpair
      exact toNat?_readNumber hs hnumber

/-! ## Writing numbers -/

namespace Number

theorem isDigit_of_mem_natDigits {n : Nat} {c : Char} (h : c ∈ natDigits n) :
    c.isDigit = true :=
  Nat.isDigit_of_mem_toDigits (by decide) (by decide) h

theorem exists_natDigits_eq (n : Nat) : ∃ c cs, natDigits n = c :: cs ∧ c.isDigit = true := by
  cases hcs : natDigits n with
  | nil => exact absurd hcs Nat.toDigits_ne_nil
  | cons c cs => exact ⟨c, cs, rfl, isDigit_of_mem_natDigits (hcs ▸ List.mem_cons_self)⟩

theorem point_mem_positional (digits : List Char) (exponent : Int) :
    '.' ∈ positional digits exponent := by
  cases exponent with
  | ofNat n => simp [positional]
  | negSucc n =>
      rw [positional]
      dsimp only
      split <;> simp

theorem letter_mem_scientific (digits : List Char) (order : Int) :
    'e' ∈ scientific digits order := by
  unfold scientific
  exact List.mem_append_right _ List.mem_cons_self

/-- The text of a float is not made of digits alone. -/
theorem exists_mem_floatText (x : Decimal.Binary64) :
    ∃ c ∈ floatText x, c.isDigit = false := by
  have hbody : ∀ body : List Char, (∃ c ∈ body, c.isDigit = false) →
      ∃ c ∈ (if x.negative then '-' :: body else body), c.isDigit = false := by
    rintro body ⟨c, hc, hdigit⟩
    refine ⟨c, ?_, hdigit⟩
    split
    · exact List.mem_cons_of_mem '-' hc
    · exact hc
  rw [floatText]
  apply hbody
  split
  · exact ⟨'.', point_mem_positional _ _, rfl⟩
  · exact ⟨'e', letter_mem_scientific _ _, rfl⟩

/-- Natural numbers are the numbers that are written with digits alone. -/
theorem digits_iff_natural (n : Number) :
    (n.chars ≠ [] ∧ ∀ c ∈ n.chars, c.isDigit = true) ↔ n.toNat?.isSome = true := by
  cases n with
  | integer i inRange =>
      cases i with
      | ofNat n =>
          refine iff_of_true ⟨Nat.toDigits_ne_nil, ?_⟩ rfl
          exact fun c hc => isDigit_of_mem_natDigits hc
      | negSucc n =>
          refine iff_of_false ?_ Bool.false_ne_true
          rintro ⟨-, hdigits⟩
          cases hdigits '-' List.mem_cons_self
  | float x =>
      refine iff_of_false ?_ Bool.false_ne_true
      rintro ⟨-, hdigits⟩
      obtain ⟨c, hc, hdigit⟩ := exists_mem_floatText x
      rw [hdigits c hc] at hdigit
      cases hdigit

end Number

end DevicePanel.Json
