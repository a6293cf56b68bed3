import DevicePanel.Proofs.CommandLine.Parse
import DevicePanel.Proofs.Json.ReadStructure
import DevicePanel.Value.Commit

/-!
# Values and their JSON

A JSON value becomes a parameter's value and is written as the same JSON again, and sorting
it by its shape is what reading the first shape that fits it comes to.  Written as text, it
is read back where a JSON value is typed, whatever blanks stand around it, as long as its
numbers are integers and it is not nested too deep.  A typed text is never read as a value
that is nested too deep, so what the program writes of a text can always be typed again.
-/

namespace DevicePanel

namespace Value

theorem toJson_ofJson (v : Json) : (ofJson v).toJson = v := by
  cases v <;> rfl

theorem decode_eq_ofJson (v : Json) : decode v = ofJson v := by
  cases v <;> rfl

end Value

namespace Format

/-- A text is the JSON value that is read between the blanks at its ends. -/
theorem parse_json_iff {input : String} {value : Value} :
    Format.json.parse input = .ok value ↔
      ∃ v, Json.read (Text.trim input) = .ok v ∧ Value.ofJson v = value := by
  by_cases hempty : input.isEmpty = true
  · obtain rfl := String.isEmpty_iff.mp hempty
    refine iff_of_false (fun h => nomatch h) ?_
    rintro ⟨v, hread, -⟩
    cases hread
  · have hgiven : ¬(input.isEmpty && Format.json != .text) = true := by simp [hempty]
    rw [Format.parse, if_neg hgiven]
    dsimp only
    cases Json.read (Text.trim input) with
    | ok v => simp
    | error reason => simp

/-- The text of a value can be typed, with blanks around it. -/
theorem parse_compact {v : Json} (hordered : v.Ordered) (hintegral : v.Integral)
    (hdepth : v.depth ≤ 127) {before after : List Char} (hbefore : Text.Blank before)
    (hafter : Text.Blank after) :
    Format.json.parse (String.ofList before ++ v.compact ++ String.ofList after) =
      .ok (.ofJson v) :=
  parse_json_iff.mpr
    ⟨v, Json.read_trim_compact hordered hintegral hdepth hbefore hafter, rfl⟩

/-- What the program writes of a typed text is parsed as the same value. -/
theorem parse_stdout {text : String} {value : Value} (h : Format.json.parse text = .ok value)
    (hintegral : value.toJson.Integral) (site : Site) :
    Format.json.parse ((Request.parse "json" text).run site).stdout = .ok value := by
  obtain ⟨v, hread, rfl⟩ := parse_json_iff.mp h
  obtain ⟨hordered, hdepth⟩ := Json.fits_of_read hread
  rw [Value.toJson_ofJson] at hintegral
  have hbefore : Text.Blank [] := List.forall_mem_nil _
  have hafter : Text.Blank ['\n'] := List.forall_mem_singleton.mpr rfl
  have hline : ((Request.parse "json" text).run site).stdout =
      String.ofList [] ++ v.compact ++ String.ofList ['\n'] := by
    have hstdout := Request.stdout_run_parse h site
    rw [Value.toJson_ofJson] at hstdout
    rw [String.ofList_nil, String.empty_append]
    exact hstdout
  rw [hline, parse_compact hordered hintegral hdepth hbefore hafter]

end Format

/-- JSON survives the values of parameters and their texts: a JSON value comes back from the
value that it stands for, only arrays, objects and null are structured, the first shape that
fits is the right one, and the text of a value, or what the program writes of a typed text,
is parsed as the same value. -/
theorem Value.json_survives (v : Json) :
    (ofJson v).toJson = v ∧
    (∀ w, ofJson v = .structured w →
      v = .null ∨ (∃ items, v = .array items) ∨ ∃ fields, v = .object fields) ∧
    decode v = ofJson v ∧
    (decode v).toJson = v ∧
    (v.Ordered → v.Integral → v.depth ≤ 127 →
      ∀ before after, Text.Blank before → Text.Blank after →
        Format.json.parse (String.ofList before ++ v.compact ++ String.ofList after) =
          .ok (ofJson v)) ∧
    (∀ text site, v.Integral → Format.json.parse text = .ok (ofJson v) →
      Format.json.parse ((Request.parse "json" text).run site).stdout = .ok (ofJson v)) := by
  refine ⟨toJson_ofJson v, ?_, decode_eq_ofJson v, ?_, ?_, ?_⟩
  · intro w hstructured
    cases v with
    | null => exact .inl rfl
    | array items => exact .inr (.inl ⟨items, rfl⟩)
    | object fields => exact .inr (.inr ⟨fields, rfl⟩)
    | bool b => cases hstructured
    | number n => cases hstructured
    | text s => cases hstructured
  · rw [decode_eq_ofJson, toJson_ofJson]
  · intro hordered hintegral hdepth before after hbefore hafter
    exact Format.parse_compact hordered hintegral hdepth hbefore hafter
  · intro text site hintegral hparse
    exact Format.parse_stdout hparse ((toJson_ofJson v).symm ▸ hintegral) site

/-- A nested object with characters to escape and a negative number, between blanks. -/
theorem Value.json_survives_nested :
    let items := [Json.null, .number (.integer (-1) (by decide))]
    let v := Json.object [("a\n", .array items), ("b", .text "\"é")]
    (v.Ordered ∧ v.Integral ∧ v.depth ≤ 127) ∧
      Format.json.parse (String.ofList [' ', '\t'] ++ v.compact ++ String.ofList ['\n']) =
        .ok (ofJson v) := by
  intro items v
  have hordered : v.Ordered := by
    refine .intro (by decide) (List.forall_mem_cons.mpr
      ⟨.intro trivial (List.forall_mem_cons.mpr ⟨?_, List.forall_mem_singleton.mpr ?_⟩),
        List.forall_mem_singleton.mpr ?_⟩)
    all_goals exact .of_childless trivial rfl
  have hintegral : v.Integral := by
    refine .intro trivial (List.forall_mem_cons.mpr
      ⟨.intro trivial (List.forall_mem_cons.mpr ⟨?_, List.forall_mem_singleton.mpr ?_⟩),
        List.forall_mem_singleton.mpr ?_⟩)
    all_goals exact .of_childless trivial rfl
  have hdepth : v.depth ≤ 127 := by decide
  obtain ⟨-, -, -, -, hparse, -⟩ := json_survives v
  exact ⟨⟨hordered, hintegral, hdepth⟩,
    hparse hordered hintegral hdepth _ _ (by decide +kernel) (by decide +kernel)⟩

end DevicePanel
