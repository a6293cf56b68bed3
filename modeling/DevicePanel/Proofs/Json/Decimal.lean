import DevicePanel.Proofs.Json.ReadBack

/-!
# Decimals

A decimal is a row of digits without a zero in front, unless it is the zero alone.  Every
natural number is written as one decimal, and a decimal is read as the number that it is
written for.  A zero in front is where the reader stops.
-/

namespace DevicePanel.Json

/-- Digits without a zero in front, or the zero alone. -/
structure IsDecimal (cs : List Char) : Prop where
  ne_nil : cs ≠ []
  isDigit : ∀ c ∈ cs, c.isDigit = true
  alone : cs.head? = some '0' → cs = ['0']

theorem isDecimal_iff (cs : List Char) :
    IsDecimal cs ↔
      cs ≠ [] ∧ cs.all Char.isDigit = true ∧ (cs.head? = some '0' → cs = ['0']) := by
  rw [List.all_eq_true]
  constructor
  · rintro ⟨hne, hdigits, halone⟩
    exact ⟨hne, hdigits, halone⟩
  · rintro ⟨hne, hdigits, halone⟩
    exact ⟨hne, hdigits, halone⟩

instance : DecidablePred IsDecimal := fun cs => decidable_of_iff _ (isDecimal_iff cs).symm

/-- Digits that are no decimal begin with a zero before another digit. -/
theorem exists_leading_zero {cs : List Char} (hne : cs ≠ []) (hcs : ∀ c ∈ cs, c.isDigit = true)
    (h : ¬IsDecimal cs) : ∃ d ds, cs = '0' :: d :: ds := by
  have hzero : cs.head? = some '0' ∧ cs ≠ ['0'] := by
    by_contra hnot
    apply h
    refine ⟨hne, hcs, ?_⟩
    intro hhead
    by_contra hrest
    exact hnot ⟨hhead, hrest⟩
  obtain ⟨rest, rfl⟩ := List.head?_eq_some_iff.mp hzero.1
  cases rest with
  | nil => exact absurd rfl hzero.2
  | cons d ds => exact ⟨d, ds, rfl⟩

/-! ## Writing -/

theorem digitChar_digitValue {c : Char} (hc : c.isDigit = true) :
    (digitValue c).digitChar = c := by
  have hrange : 48 ≤ c.toNat ∧ c.toNat ≤ 57 := Char.isDigit_iff_toNat.mp hc
  apply Char.toNat_inj.mp
  rw [digitValue, Nat.toNat_digitChar_of_lt_ten (by omega)]
  omega

theorem natDigits_digitValue {c : Char} (hc : c.isDigit = true) :
    Number.natDigits (digitValue c) = [c] := by
  rw [Number.natDigits, Nat.toDigits_of_lt_base (digitValue_lt hc), digitChar_digitValue hc]

/-- Digits behind a positive number are the last digits of a greater one. -/
theorem natDigits_append {n : Nat} (hn : 0 < n) {cs : List Char}
    (hcs : ∀ c ∈ cs, c.isDigit = true) :
    Number.natDigits n ++ cs = Number.natDigits (Nat.ofDigitChars 10 cs n) := by
  induction cs generalizing n with
  | nil => simp
  | cons c cs ih =>
      have hc : c.isDigit = true := hcs c List.mem_cons_self
      have hstep : Number.natDigits n ++ [c] = Number.natDigits (n * 10 + digitValue c) := by
        rw [← natDigits_digitValue hc, Nat.mul_comm]
        exact Nat.toDigits_append_toDigits (by decide) hn (digitValue_lt hc)
      rw [ofDigitChars_cons_digitValue,
        ← ih (by omega) fun d hd => hcs d (List.mem_cons_of_mem c hd), ← hstep]
      simp

/-- A decimal is what the number of its digits is written as. -/
theorem natDigits_digitsValue {cs : List Char} (h : IsDecimal cs) :
    Number.natDigits (digitsValue cs) = cs := by
  obtain ⟨hne, hdigits, hzero⟩ := h
  cases cs with
  | nil => exact absurd rfl hne
  | cons c cs =>
      have hc : c.isDigit = true := hdigits c List.mem_cons_self
      by_cases hpos : 0 < digitValue c
      · rw [digitsValue_cons,
          ← natDigits_append hpos fun d hd => hdigits d (List.mem_cons_of_mem c hd),
          natDigits_digitValue hc]
        rfl
      · have hchar : c = '0' := by
          rw [← digitChar_digitValue hc, Nat.eq_zero_of_not_pos hpos]
          rfl
        rw [hzero (congrArg some hchar)]
        rfl

/-! ## Reading -/

theorem read_of_isDecimal {s : String} (h : IsDecimal s.toList)
    (hlt : digitsValue s.toList < 18446744073709551616) :
    read s = .ok (.number (.ofNat _ hlt)) := by
  have htext : (Json.number (.ofNat _ hlt)).compact = s := by
    have hchars : (Json.number (.ofNat _ hlt)).chars = s.toList := by
      rw [chars]
      exact natDigits_digitsValue h
    rw [compact, hchars, String.ofList_toList]
  have hread := read_compact (v := .number (.ofNat _ hlt)) (.of_childless trivial rfl)
    (.of_childless trivial rfl) (Nat.zero_le maxDepth)
  rwa [htext] at hread

theorem utf8Size_of_isDigit {c : Char} (hc : c.isDigit = true) : c.utf8Size = 1 := by
  have hle : c.toNat ≤ 57 := (Char.isDigit_iff_toNat.mp hc).2
  rw [Char.utf8Size_eq_one_iff]
  show c.toNat ≤ 127
  omega

theorem ne_lineBreak_of_isDigit {c : Char} (hc : c.isDigit = true) : c ≠ '\n' := by
  rintro rfl
  cases hc

theorem ofBytes_two {c d : Char} (hc : c.isDigit = true) (hd : d.isDigit = true)
    (cs : List Char) : Text.Position.ofBytes (c :: d :: cs) 2 = ⟨1, 2⟩ := by
  have hstop : ∀ p : Text.Position, p.advance cs 0 = p := by
    intro p
    cases cs with
    | nil => rfl
    | cons c cs => simp [Text.Position.advance, Char.utf8Size_pos]
  simp [Text.Position.ofBytes, Text.Position.advance, utf8Size_of_isDigit hc,
    utf8Size_of_isDigit hd, ne_lineBreak_of_isDigit hc, ne_lineBreak_of_isDigit hd, hstop]

/-- A zero in front of digits is a fault of the digit behind it. -/
theorem read_of_leading_zero {s : String} {d : Char} {ds : List Char}
    (hs : s.toList = '0' :: d :: ds) (hd : d.isDigit = true) :
    read s = .error "invalid number at line 1 column 2" := by
  have hnumber : readNumber ('0' :: d :: ds) = .error (.on .badNumber (d :: ds)) := by
    rw [readNumber_of_digit rfl, readUnsigned, if_pos (beq_self_eq_true '0'), startsWithDigit,
      if_pos hd]
  have hchars : readChars ('0' :: d :: ds) = .error (.on .badNumber (d :: ds)) := by
    rw [readChars, maxDepth, readValue, readWith_of_digit _ rfl, hnumber]
    rfl
  have hplace : Text.byteLength ('0' :: d :: ds) - (Text.byteLength (d :: ds) - 1) = 2 := by
    rw [Text.byteLength_cons, Text.byteLength_cons, utf8Size_of_isDigit rfl,
      utf8Size_of_isDigit hd]
    omega
  rw [read, hs, hchars, Except.mapError, Fault.message, Fault.on, hplace, ofBytes_two rfl hd]
  rfl

end DevicePanel.Json
