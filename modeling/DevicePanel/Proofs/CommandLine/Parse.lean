import DevicePanel.CommandLine.Run

/-!
# Parsing a text without a panel

The command that parses a text writes the value that the format makes of it as one line of
compact JSON, or why there is none.
-/

namespace DevicePanel

theorem Format.ofTag_tag (f : Format) : Format.ofTag f.tag = .ok f := by
  have htag : Format.ofTag? f.tag = some f := by cases f <;> decide +kernel
  rw [ofTag, htag]

namespace Request

/-- Without a panel the program writes the value of a text as JSON, or why there is
none. -/
theorem run_parse (f : Format) (text : String) (site : Site) :
    (Request.parse f.tag text).run site =
      match f.parse text with
      | .ok v => .success [v.toJson.compact]
      | .error e => .failure (.value e) := by
  have hline : parseLine f.tag text =
      ((f.parse text).mapError Failure.value).map (·.toJson.compact) := by
    rw [parseLine, Format.ofTag_tag]
    rfl
  rw [run, hline]
  cases f.parse text with
  | ok v => rfl
  | error e => rfl

/-- What is written of a value is its text with the end of the line behind it. -/
theorem stdout_run_parse {f : Format} {text : String} {v : Value} (h : f.parse text = .ok v)
    (site : Site) :
    ((Request.parse f.tag text).run site).stdout = v.toJson.compact ++ "\n" := by
  rw [run_parse, h]
  simp [Outcome.success, Outcome.joinLines, String.join]

end Request

end DevicePanel
