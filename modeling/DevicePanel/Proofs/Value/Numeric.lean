import DevicePanel.Proofs.Json.WholeNumber
import DevicePanel.Proofs.Value.Shape

/-!
# Numbers and the numeric pattern

The numeric formats ask a typed text for digits.  A configured value only has to be a
number.  Here is when the text of a number would itself be accepted: a typed one when its
digits stand for a number of 64 bits, and any other one when it is a natural number.
-/

namespace DevicePanel

theorem Value.display_number (n : Json.Number) :
    (Value.number n).display = String.ofList n.chars := by
  rw [display, toJson, Json.compact, Json.chars]
  rintro s ⟨⟩

namespace Format

variable {f : Format}

/-- The numeric formats accept digits, at least one. -/
theorem accepts_iff_digits (hf : f.IsNumeric) (s : String) :
    f.accepts s = true ↔ s.toList ≠ [] ∧ ∀ c ∈ s.toList, c.isDigit = true := by
  have haccepts : f.accepts s = (!s.isEmpty && s.toList.all Char.isDigit) := by
    rcases hf with rfl | rfl <;> rfl
  rw [haccepts, Bool.and_eq_true, List.all_eq_true, Bool.not_eq_true', ← Bool.not_eq_true,
    String.isEmpty_iff, ← String.toList_eq_nil_iff]

/-- The text of a number is accepted exactly if it is a natural number. -/
theorem accepts_display_iff (hf : f.IsNumeric) (n : Json.Number) :
    f.accepts (Value.number n).display = true ↔ n.toNat?.isSome = true := by
  rw [accepts_iff_digits hf, Value.display_number, String.toList_ofList]
  exact n.digits_iff_natural

/-- The text of a typed number is accepted exactly if its digits stand for a number of 64
bits. -/
theorem accepts_display_of_parse (hf : f.IsNumeric) {s : String} {v : Value}
    (h : f.parse s = .ok v) :
    f.accepts v.display = true ↔
      Json.digitsValue (Text.trim s).toList < 18446744073709551616 := by
  obtain ⟨n, rfl, haccepts, hread⟩ := exists_number_of_parse hf h
  have hdigits := ((accepts_iff_digits hf _).mp haccepts).2
  have hlimit : Json.digitsValue (Text.trim s).toList ≤ Json.maxSignificand ↔
      Json.digitsValue (Text.trim s).toList < 18446744073709551616 := by
    rw [Json.maxSignificand]
    omega
  rw [accepts_display_iff hf, Json.toNat?_read hdigits hread, ← hlimit]
  split
  next hle => exact iff_of_true rfl hle
  next hgt => exact iff_of_false Bool.false_ne_true hgt

end Format
end DevicePanel
