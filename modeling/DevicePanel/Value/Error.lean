import DevicePanel.Value.Format

/-!
# Rejected values

Why a text or a configured value is no value of a format, with the wording that
is shown to the user.
-/

namespace DevicePanel

/-- The reason why there is no value. -/
inductive ValueError where
  /-- The text does not read as a value of the format. -/
  | malformed (format : Format) (input : String) (reason : String)
  /-- There is no text to read. -/
  | emptyInput
  /-- No format has this tag. -/
  | unknownFormat (tag : String)
  /-- The configured value has the wrong shape; `value` is its JSON text. -/
  | mismatch (format : Format) (value : String)
  deriving DecidableEq

namespace ValueError

def message : ValueError → String
  | .malformed format input reason =>
    "'" ++ input ++ "' is not a valid " ++ format.tag ++ " value: " ++ reason
  | .emptyInput => "nothing to commit"
  | .unknownFormat tag =>
    "unknown value format '" ++ tag ++
      "'; expected one of number, number+units, bool, string, json"
  | .mismatch format value => value ++ " is not a " ++ format.tag ++ " value"

/-- The error is about text that a user has typed. -/
def isInputError : ValueError → Bool
  | .malformed .. | .emptyInput => true
  | _ => false

end ValueError

/-- The format with the given tag, or the error that names the tag as written. -/
def Format.ofTag (tag : String) : Except ValueError Format :=
  match Format.ofTag? tag with
  | some format => .ok format
  | none => .error (.unknownFormat tag)

end DevicePanel
