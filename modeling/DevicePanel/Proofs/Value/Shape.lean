import DevicePanel.Value.Commit

/-!
# Shapes of values

Every format asks for one shape of values: a number, a boolean, a text, or any value of
JSON.  A value is structured only around an array, an object or null.

Both ways to a value give the shape that the format asks for: a text that the user has
confirmed and a JSON value of a sheet.  Conversely a value has the shape of a format
exactly when its own JSON is checked to be that value, so a sheet could have configured
every value that the format admits.
-/

namespace DevicePanel

/-- The JSON values that are values of a shape of their own. -/
def Json.IsScalar : Json → Prop
  | .number _ | .bool _ | .text _ => True
  | .null | .array _ | .object _ => False

/-- The formats of whole numbers, without and with units. -/
def Format.IsNumeric (f : Format) : Prop := f = .number ∨ f = .numberWithUnits

theorem Format.IsNumeric.isBoolean_eq_false {f : Format} (h : f.IsNumeric) :
    f.isBoolean = false := by
  rcases h with rfl | rfl <;> rfl

namespace Value

/-- The value has the shape that a format asks for. -/
def HasShape : Value → Format → Prop
  | .number _, .number | .number _, .numberWithUnits => True
  | .bool _, .bool => True
  | .text _, .text => True
  | .number _, .json | .bool _, .json | .text _, .json => True
  | .structured v, .json => ¬ v.IsScalar
  | _, _ => False

theorem ofJson_hasShape (v : Json) : (ofJson v).HasShape .json := by
  cases v with
  | null | array _ | object _ =>
      intro h
      exact h
  | bool _ | number _ | text _ => trivial

theorem ofJson_toJson_iff (v : Value) : ofJson v.toJson = v ↔ v.HasShape .json := by
  constructor
  · intro h
    rw [← h]
    exact ofJson_hasShape v.toJson
  · intro h
    cases v with
    | number n => rfl
    | bool b => rfl
    | text s => rfl
    | structured v =>
        cases v with
        | null | array _ | object _ => rfl
        | bool _ | number _ | text _ => exact absurd trivial h

/-- The values of numeric formats are numbers. -/
theorem HasShape.exists_number {v : Value} {f : Format}
    (h : v.HasShape f) (hf : f.IsNumeric) :
    ∃ n, v = .number n := by
  cases v with
  | number n => exact ⟨n, rfl⟩
  | bool _ | text _ | structured _ =>
      rcases hf with rfl | rfl <;> exact absurd h not_false

end Value

namespace Format

open Value

/-! ## Configured values -/

/-- Whatever is configured for a switch, only a boolean comes of it. -/
theorem exists_bool_of_check {j : Json} {v : Value}
    (h : Format.bool.check j = .ok v) : ∃ b, v = .bool b := by
  cases j with
  | bool b =>
      cases h
      exact ⟨b, rfl⟩
  | number n =>
      simp only [check] at h
      split at h
      · cases h
        exact ⟨false, rfl⟩
      · cases h
        exact ⟨true, rfl⟩
      · cases h
  | text s =>
      simp only [check] at h
      split at h
      · cases h
        exact ⟨true, rfl⟩
      · split at h
        · cases h
          exact ⟨false, rfl⟩
        · cases h
  | null | array _ | object _ => cases h

theorem hasShape_of_check {f : Format} {j : Json} {v : Value}
    (h : f.check j = .ok v) : v.HasShape f := by
  cases f with
  | number | numberWithUnits =>
      cases j with
      | number n =>
          cases h
          trivial
      | null | bool _ | text _ | array _ | object _ => cases h
  | text =>
      cases j with
      | text s =>
          cases h
          trivial
      | null | bool _ | number _ | array _ | object _ => cases h
  | bool =>
      obtain ⟨b, rfl⟩ := exists_bool_of_check h
      trivial
  | json =>
      cases h
      exact ofJson_hasShape j

/-- The values of a format are those that its check gives back for their own JSON. -/
theorem check_toJson_iff (f : Format) (v : Value) :
    f.check v.toJson = .ok v ↔ v.HasShape f := by
  constructor
  · exact hasShape_of_check
  · intro h
    cases f with
    | json =>
        rw [check, (ofJson_toJson_iff v).mpr h]
    | number | numberWithUnits | bool | text =>
        cases v <;> first | rfl | exact absurd h not_false

/-! ## Confirmed texts -/

/-- A number comes of a text that the numeric pattern accepts and that is the JSON of the
number. -/
theorem exists_number_of_parse {f : Format} {s : String} {v : Value}
    (hf : f.IsNumeric) (h : f.parse s = .ok v) :
    ∃ n, v = .number n ∧ f.accepts (Text.trim s) = true ∧
      Json.read (Text.trim s) = .ok (.number n) := by
  have hread : f.accepts (Text.trim s) = true ∧
      (∃ n, Json.read (Text.trim s) = .ok (.number n) ∧ v = .number n) := by
    rcases hf with rfl | rfl
    all_goals
      simp only [parse] at h
      split at h
      · cases h
      · split at h
        · cases h
        next haccepts =>
          split at h
          next n hn =>
            cases h
            exact ⟨by simpa using haccepts, n, hn, rfl⟩
          · cases h
          · cases h
  obtain ⟨haccepts, n, hn, rfl⟩ := hread
  exact ⟨n, rfl, haccepts, hn⟩

theorem hasShape_of_parse {f : Format} {s : String} {v : Value}
    (h : f.parse s = .ok v) : v.HasShape f := by
  cases f with
  | number =>
      obtain ⟨n, rfl, -, -⟩ := exists_number_of_parse (.inl rfl) h
      trivial
  | numberWithUnits =>
      obtain ⟨n, rfl, -, -⟩ := exists_number_of_parse (.inr rfl) h
      trivial
  | text =>
      simp only [parse, bne_self_eq_false, Bool.and_false] at h
      cases h
      trivial
  | bool =>
      simp only [parse] at h
      split at h
      · cases h
      · split at h
        · cases h
        · cases h
          trivial
  | json =>
      simp only [parse] at h
      split at h
      · cases h
      · split at h
        · cases h
          exact ofJson_hasShape _
        · cases h

end Format

end DevicePanel
