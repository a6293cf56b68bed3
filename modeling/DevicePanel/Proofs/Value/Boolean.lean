import DevicePanel.Proofs.Json.ReadBack
import DevicePanel.Proofs.Value.Numeric

/-!
# Configured booleans

A boolean may be configured as a number or a text.  Which ones are taken is decided by the
number or the text itself, but the texts of the boolean pattern decide it as well: a number is
taken exactly if it is written as one of them, and stands for the same boolean as that text
does when it is typed.  For this only the natural numbers 0 and 1 may be written `0` and `1`,
and no number may be written with letters alone.
-/

namespace DevicePanel

namespace Json.Number

/-! ## Texts of numbers -/

theorem chars_of_toNat? {n : Number} {k : Nat} (h : n.toNat? = some k) :
    n.chars = natDigits k := by
  cases n with
  | integer i inRange =>
      cases i with
      | ofNat m =>
          cases h
          rfl
      | negSucc m => cases h
  | float x => cases h

/-- The digits of a natural number are the text of no other number. -/
theorem chars_eq_natDigits_iff (n : Number) (k : Nat) :
    n.chars = natDigits k ↔ n.toNat? = some k := by
  refine ⟨fun h => ?_, chars_of_toNat?⟩
  have hdigits : n.chars ≠ [] ∧ ∀ c ∈ n.chars, c.isDigit = true := by
    rw [h]
    exact ⟨Nat.toDigits_ne_nil, fun c hc => isDigit_of_mem_natDigits hc⟩
  obtain ⟨m, hm⟩ := Option.isSome_iff_exists.mp (n.digits_iff_natural.mp hdigits)
  have hsame : natDigits m = natDigits k := (chars_of_toNat? hm).symm.trans h
  rw [hm, ← digitsValue_natDigits m, hsame, digitsValue_natDigits]

theorem head?_positional {digits : List Char} {c : Char} (h : digits.head? = some c)
    (hc : c.isDigit = true) (exponent : Int) :
    ∃ d, (positional digits exponent).head? = some d ∧ d.isDigit = true := by
  obtain ⟨cs, rfl⟩ := List.head?_eq_some_iff.mp h
  cases exponent with
  | ofNat n => exact ⟨c, rfl, hc⟩
  | negSucc n =>
      rw [positional]
      dsimp only
      split
      next hplaces =>
        obtain ⟨k, hk⟩ := Nat.exists_eq_add_of_lt hplaces
        have htake : (c :: cs).length - (n + 1) = k + 1 := by omega
        rw [htake]
        exact ⟨c, rfl, hc⟩
      next => exact ⟨'0', rfl, rfl⟩

theorem head?_scientific {digits : List Char} {c : Char} (h : digits.head? = some c)
    (order : Int) : (scientific digits order).head? = some c := by
  obtain ⟨cs, rfl⟩ := List.head?_eq_some_iff.mp h
  cases cs <;> rfl

/-- A number is written with a digit or a minus at the front. -/
theorem head?_chars (n : Number) :
    ∃ c, n.chars.head? = some c ∧ (c.isDigit = true ∨ c = '-') := by
  have hdigits (k : Nat) : ∃ c, (natDigits k).head? = some c ∧ c.isDigit = true := by
    obtain ⟨c, cs, hcs, hc⟩ := exists_natDigits_eq k
    exact ⟨c, by rw [hcs, List.head?_cons], hc⟩
  cases n with
  | integer i inRange =>
      cases i with
      | ofNat k =>
          obtain ⟨c, hhead, hc⟩ := hdigits k
          exact ⟨c, hhead, .inl hc⟩
      | negSucc k => exact ⟨'-', rfl, .inr rfl⟩
  | float x =>
      rw [chars, floatText]
      split
      · exact ⟨'-', rfl, .inr rfl⟩
      · obtain ⟨c, hhead, hc⟩ := hdigits (Decimal.shortest x).digits
        split
        · obtain ⟨d, hbody, hd⟩ := head?_positional hhead hc (Decimal.shortest x).exponent
          exact ⟨d, hbody, .inl hd⟩
        · exact ⟨c, head?_scientific hhead _, .inl hc⟩

end Json.Number

namespace Format

/-! ## Texts of the pattern -/

/-- The texts that stand for a boolean. -/
def boolTexts : Bool → List String
  | true => ["true", "1"]
  | false => ["false", "0"]

/-- The pattern accepts these texts, and each stands for its own boolean. -/
theorem mem_boolTexts_iff {s : String} {b : Bool} :
    s ∈ boolTexts b ↔ Format.bool.accepts s = true ∧ Format.bool.parse s = .ok (.bool b) := by
  constructor
  · intro h
    cases b <;> rcases List.mem_pair.mp h with rfl | rfl <;> exact ⟨rfl, rfl⟩
  · rintro ⟨haccepts, hparse⟩
    have htexts : s = "true" ∨ s = "false" ∨ s = "0" ∨ s = "1" := by
      simpa [accepts, or_assoc] using haccepts
    rcases htexts with rfl | rfl | rfl | rfl <;> cases hparse <;> decide

theorem check_text_iff {s : String} {b : Bool} :
    Format.bool.check (.text s) = .ok (.bool b) ↔ s ∈ boolTexts b := by
  constructor
  · intro h
    rw [check] at h
    split at h
    next htrue =>
      cases h
      simpa [boolTexts] using htrue
    next =>
      split at h
      next hfalse =>
        cases h
        simpa [boolTexts] using hfalse
      next => cases h
  · intro h
    cases b <;> rcases List.mem_pair.mp h with rfl | rfl <;> rfl

/-- The numbers that are taken are those that are written as a text of the pattern. -/
theorem check_number_iff {n : Json.Number} {b : Bool} :
    Format.bool.check (.number n) = .ok (.bool b) ↔ String.ofList n.chars ∈ boolTexts b := by
  have hdigit (k : Nat) : n.chars = Json.Number.natDigits k ↔ n.toNat? = some k :=
    n.chars_eq_natDigits_iff k
  constructor
  · intro h
    simp only [check] at h
    split at h
    next hzero =>
      cases h
      rw [(hdigit 0).mpr hzero]
      exact List.mem_pair.mpr (.inr rfl)
    next hone =>
      cases h
      rw [(hdigit 1).mpr hone]
      exact List.mem_pair.mpr (.inr rfl)
    next => cases h
  · intro h
    obtain ⟨c, hhead, hc⟩ := n.head?_chars
    have hword {s : String} (hs : String.ofList n.chars = s) : s.toList.head? = some c := by
      rw [← hs, String.toList_ofList, hhead]
    have hnat (k : Nat) {s : String} (hs : String.ofList n.chars = s)
        (hk : s.toList = Json.Number.natDigits k) : n.toNat? = some k := by
      rw [← hs, String.toList_ofList] at hk
      exact (hdigit k).mp hk
    -- The words begin with a letter, so that no number is written as one of them.
    cases b with
    | false =>
        rcases List.mem_pair.mp h with hs | hs
        · have hletter : 'f' = c := Option.some.inj (hword hs)
          rw [← hletter] at hc
          exact absurd hc (by decide)
        · simp only [check, hnat 0 hs rfl]
    | true =>
        rcases List.mem_pair.mp h with hs | hs
        · have hletter : 't' = c := Option.some.inj (hword hs)
          rw [← hletter] at hc
          exact absurd hc (by decide)
        · simp only [check, hnat 1 hs rfl]

/-- A configured value that is no boolean of any kind is reported with its JSON. -/
theorem check_bool_cases (v : Json) :
    (∃ b, Format.bool.check v = .ok (.bool b)) ∨
      Format.bool.check v = .error (.mismatch .bool v.compact) := by
  cases v with
  | null | array _ | object _ => exact .inr rfl
  | bool b => exact .inl ⟨b, rfl⟩
  | number n =>
      simp only [check]
      split
      · exact .inl ⟨false, rfl⟩
      · exact .inl ⟨true, rfl⟩
      · exact .inr rfl
  | text s =>
      simp only [check]
      split
      · exact .inl ⟨true, rfl⟩
      · split
        · exact .inl ⟨false, rfl⟩
        · exact .inr rfl

/-- A number or a text whose own text is one of the pattern and stands for a boolean when it is
typed. -/
def SpellsBool (v : Json) (b : Bool) : Prop :=
  ((∃ n, v = .number n) ∨ ∃ s, v = .text s) ∧
    Format.bool.accepts (Value.ofJson v).display = true ∧
    Format.bool.parse (Value.ofJson v).display = .ok (.bool b)

/-- A configured value is taken for a boolean exactly if it is that boolean, or a number or text
that spells it in a way the boolean pattern accepts.  All other values are reported with their
JSON. -/
theorem configured_bool_follows_pattern (v : Json) :
    (∀ b, Format.bool.check v = .ok (.bool b) ↔ v = .bool b ∨ SpellsBool v b) ∧
    (Format.bool.check v = .error (.mismatch .bool v.compact) ↔
      ∀ b, ¬ (v = .bool b ∨ SpellsBool v b)) := by
  have haccepted : ∀ b, Format.bool.check v = .ok (.bool b) ↔ v = .bool b ∨ SpellsBool v b := by
    intro b
    cases v with
    | null | array _ | object _ => simp [check, SpellsBool]
    | bool b' => simp [check, SpellsBool]
    | number n =>
        rw [check_number_iff, mem_boolTexts_iff, ← Value.display_number]
        simp [SpellsBool, Value.ofJson]
    | text s =>
        rw [check_text_iff, mem_boolTexts_iff]
        simp [SpellsBool, Value.ofJson, Value.display]
  refine ⟨haccepted, ?_⟩
  simp only [← haccepted]
  rcases check_bool_cases v with ⟨b, hok⟩ | herror
  · refine iff_of_false (fun herror => ?_) fun hnone => hnone b hok
    cases herror.symm.trans hok
  · refine iff_of_true herror fun b hok => ?_
    cases herror.symm.trans hok

end Format
end DevicePanel
