import DevicePanel.Proofs.CommandLine.Parse
import DevicePanel.Proofs.Json.Decimal
import DevicePanel.Proofs.Value.Numeric

/-!
# Typed numbers

A number is typed as a decimal, with blanks around it.  Every other text is rejected, and the
decimals of 64 bits stand for the numbers that they are written as.  Only those are shown again
as they were typed: a greater decimal becomes a float, which is never written with digits alone.
-/

namespace DevicePanel
namespace Format

variable {f : Format}

/-! ## What is accepted -/

theorem parse_empty (hf : f.IsNumeric) : f.parse "" = .error .emptyInput := by
  rcases hf with rfl | rfl <;> rfl

section Given

variable {text : String} (hf : f.IsNumeric) (hne : text ≠ "")
include hf hne

theorem parse_of_not_accepts (h : f.accepts (Text.trim text) = false) :
    f.parse text = .error (.malformed f text "digits only") := by
  have hempty : text.isEmpty = false := by simpa using hne
  rcases hf with rfl | rfl <;> simp [parse, hempty, h]

theorem parse_of_read_error (h : f.accepts (Text.trim text) = true) {reason : String}
    (hread : Json.read (Text.trim text) = .error reason) :
    f.parse text = .error (.malformed f text reason) := by
  have hempty : text.isEmpty = false := by simpa using hne
  rcases hf with rfl | rfl <;> simp [parse, hempty, h, hread]

theorem parse_of_read_number (h : f.accepts (Text.trim text) = true) {n : Json.Number}
    (hread : Json.read (Text.trim text) = .ok (.number n)) :
    f.parse text = .ok (.number n) := by
  have hempty : text.isEmpty = false := by simpa using hne
  rcases hf with rfl | rfl <;> simp [parse, hempty, h, hread]

end Given

theorem accepts_of_isDecimal (hf : f.IsNumeric) {s : String} (h : Json.IsDecimal s.toList) :
    f.accepts s = true := by
  rw [accepts_iff_digits hf]
  exact ⟨h.ne_nil, h.isDigit⟩

theorem parse_of_isDecimal (hf : f.IsNumeric) {text : String}
    (h : Json.IsDecimal (Text.trim text).toList)
    (hlt : Json.digitsValue (Text.trim text).toList < 18446744073709551616) :
    f.parse text = .ok (.number (.ofNat _ hlt)) := by
  have hne : text ≠ "" := by
    rintro rfl
    exact h.ne_nil rfl
  exact parse_of_read_number hf hne (accepts_of_isDecimal hf h) (Json.read_of_isDecimal h hlt)

/-- Why a text is no number: the reader meets a zero in front of digits, and other characters
than digits do not even get there. -/
theorem parse_of_not_isDecimal (hf : f.IsNumeric) {text : String} (hne : text ≠ "")
    (h : ¬Json.IsDecimal (Text.trim text).toList) :
    f.parse text = .error (.malformed f text
      (if f.accepts (Text.trim text) then "invalid number at line 1 column 2"
        else "digits only")) := by
  by_cases haccepts : f.accepts (Text.trim text) = true
  · obtain ⟨hchars, hdigits⟩ := (accepts_iff_digits hf _).mp haccepts
    obtain ⟨d, ds, hzero⟩ := Json.exists_leading_zero hchars hdigits h
    have hd : d.isDigit = true := hdigits d (by rw [hzero]; simp)
    rw [if_pos haccepts]
    exact parse_of_read_error hf hne haccepts (Json.read_of_leading_zero hzero hd)
  · rw [if_neg haccepts]
    exact parse_of_not_accepts hf hne (by simpa using haccepts)

/-- What is typed for a number is accepted exactly if it is a decimal between blanks.  Any other
text is malformed, unless it is empty, and the error carries the format and the text as it was
typed.  A decimal of 64 bits is parsed as the number that its digits stand for. -/
theorem numeric_parse_takes_decimals (hf : f.IsNumeric) (text : String) :
    (¬Json.IsDecimal (Text.trim text).toList →
      ∃ e, f.parse text = .error e ∧ (e = .emptyInput ↔ text = "") ∧
        (text ≠ "" → e = .malformed f text
          (if f.accepts (Text.trim text) then "invalid number at line 1 column 2"
            else "digits only"))) ∧
    (Json.IsDecimal (Text.trim text).toList →
      ∀ hlt : Json.digitsValue (Text.trim text).toList < 18446744073709551616,
        f.parse text = .ok (.number (.ofNat _ hlt))) := by
  constructor
  · intro h
    by_cases hempty : text = ""
    · subst hempty
      exact ⟨.emptyInput, parse_empty hf, by simp, fun hne => absurd rfl hne⟩
    · exact ⟨_, parse_of_not_isDecimal hf hempty h, by simp [hempty], fun _ => rfl⟩
  · intro h hlt
    exact parse_of_isDecimal hf h hlt

/-- A rejected text between blanks, and the greatest number of 64 bits. -/
theorem numeric_parse_takes_decimals_at_limit :
    number.IsNumeric ∧
      (¬Json.IsDecimal (Text.trim " 007").toList ∧
        number.parse " 007" =
          .error (.malformed .number " 007" "invalid number at line 1 column 2")) ∧
      Json.IsDecimal (Text.trim "18446744073709551615\n").toList ∧
        ∃ hlt, number.parse "18446744073709551615\n" =
          .ok (.number (.ofNat 18446744073709551615 hlt)) := by
  have hf : number.IsNumeric := .inl rfl
  have hzeros : ¬Json.IsDecimal (Text.trim " 007").toList := by decide +kernel
  have hgreatest : Json.IsDecimal (Text.trim "18446744073709551615\n").toList := by decide +kernel
  have hvalue : Json.digitsValue (Text.trim "18446744073709551615\n").toList =
      18446744073709551615 := by decide +kernel
  have haccepts : number.accepts (Text.trim " 007") = true := by decide +kernel
  obtain ⟨e, hparse, -, hmalformed⟩ := (numeric_parse_takes_decimals hf " 007").1 hzeros
  have he := hmalformed (by decide)
  rw [if_pos haccepts] at he
  have hexact := (numeric_parse_takes_decimals hf "18446744073709551615\n").2 hgreatest
  rw [hvalue] at hexact
  exact ⟨hf, ⟨hzeros, he ▸ hparse⟩, hgreatest, by decide, hexact (by decide)⟩

/-! ## What is shown -/

theorem isDecimal_of_parse (hf : f.IsNumeric) {text : String} {v : Value}
    (h : f.parse text = .ok v) : Json.IsDecimal (Text.trim text).toList := by
  by_contra hnot
  by_cases hempty : text = ""
  · rw [hempty, parse_empty hf] at h
    cases h
  · rw [parse_of_not_isDecimal hf hempty hnot] at h
    cases h

/-- A typed number is shown as it was typed exactly if it has 64 bits, and the program writes it
as it is shown. -/
theorem typed_number_is_exact_iff (hf : f.IsNumeric) {text : String} {v : Value}
    (h : f.parse text = .ok v) :
    (v.display = Text.trim text ↔
      Json.digitsValue (Text.trim text).toList < 18446744073709551616) ∧
    v.toJson.compact = v.display ∧
    ∀ site, ((Request.parse f.tag text).run site).stdout = v.display ++ "\n" := by
  have hdecimal := isDecimal_of_parse hf h
  obtain ⟨n, hn, -, -⟩ := exists_number_of_parse hf h
  have hcompact : v.toJson.compact = v.display := by
    rw [hn, Value.display_number, Value.toJson, Json.compact, Json.chars]
  refine ⟨?_, hcompact, ?_⟩
  · constructor
    · intro hshown
      rw [← accepts_display_of_parse hf h, hshown]
      exact accepts_of_isDecimal hf hdecimal
    · intro hlt
      have hvalue : v = .number (.ofNat _ hlt) :=
        Except.ok.inj (h.symm.trans (parse_of_isDecimal hf hdecimal hlt))
      have hchars : (Json.Number.ofNat _ hlt).chars = (Text.trim text).toList :=
        Json.natDigits_digitsValue hdecimal
      rw [hvalue, Value.display_number, hchars, String.ofList_toList]
  · intro site
    rw [Request.stdout_run_parse h site, hcompact]

/-- The greatest number of 64 bits, typed between blanks. -/
theorem typed_number_is_exact_iff_greatest :
    numberWithUnits.IsNumeric ∧
      ∃ v, numberWithUnits.parse " 18446744073709551615\n" = .ok v ∧
        v.display = "18446744073709551615" := by
  have hf : numberWithUnits.IsNumeric := .inr rfl
  have htrim : Text.trim " 18446744073709551615\n" = "18446744073709551615" := by decide +kernel
  have hdecimal : Json.IsDecimal (Text.trim " 18446744073709551615\n").toList := by
    decide +kernel
  have hlt : Json.digitsValue (Text.trim " 18446744073709551615\n").toList <
      18446744073709551616 := by decide +kernel
  have hparse := parse_of_isDecimal hf hdecimal hlt
  obtain ⟨hshown, -, -⟩ := typed_number_is_exact_iff hf hparse
  exact ⟨hf, _, hparse, (hshown.mpr hlt).trans htrim⟩

/-- The least number of more than 64 bits is accepted and shown as a float. -/
theorem long_number_is_rounded :
    Text.trim "18446744073709551616" = "18446744073709551616" ∧
      ∃ v, number.parse "18446744073709551616" = .ok v ∧
        v.display = "1.8446744073709552e+19" := by
  have hshown : (number.parse "18446744073709551616").toOption.map Value.display =
      some "1.8446744073709552e+19" := by decide +kernel
  obtain ⟨v, hv, hdisplay⟩ := Option.map_eq_some_iff.mp hshown
  exact ⟨by decide +kernel, v, eq_ok_of_toOption_eq_some hv, hdisplay⟩

end Format
end DevicePanel
