import DevicePanel.Json.Reader
import DevicePanel.Value.Basic
import DevicePanel.Value.Error

/-!
# Committing values

How a confirmed text and a configured JSON value become values of a format, and
how the committed value is shown in a field that has not been edited.
-/

namespace DevicePanel

namespace Format

/-- The value of a confirmed text.  Only a text parameter takes the text as it is,
blanks included, and only it has an empty value. -/
def parse (format : Format) (input : String) : Except ValueError Value :=
  let candidate := Text.trim input
  let malformed := fun reason => Except.error (ValueError.malformed format input reason)
  if input.isEmpty && format != .text then .error .emptyInput
  else
    match format with
    | .text => .ok (.text input)
    | .number | .numberWithUnits =>
      if !format.accepts candidate then malformed "digits only"
      else
        match Json.read candidate with
        | .ok (.number n) => .ok (.number n)
        | .ok _ => malformed "not a number"
        | .error reason => malformed reason
    | .bool =>
      if !format.accepts candidate then malformed "expected true, false, 0 or 1"
      else .ok (.bool (candidate == "true" || candidate == "1"))
    | .json =>
      match Json.read candidate with
      | .ok v => .ok (.ofJson v)
      | .error reason => malformed reason

/-- The value of a configured JSON value.  A boolean may also be given as one of
the numbers and texts that the format's pattern accepts. -/
def check (format : Format) (v : Json) : Except ValueError Value :=
  let mismatch := Except.error (ValueError.mismatch format v.compact)
  match format with
  | .number | .numberWithUnits =>
    match v with
    | .number n => .ok (.number n)
    | _ => mismatch
  | .bool =>
    match v with
    | .bool b => .ok (.bool b)
    | .number n =>
      match n.toNat? with
      | some 0 => .ok (.bool false)
      | some 1 => .ok (.bool true)
      | _ => mismatch
    | .text s =>
      if s == "true" || s == "1" then .ok (.bool true)
      else if s == "false" || s == "0" then .ok (.bool false)
      else mismatch
    | _ => mismatch
  | .text =>
    match v with
    | .text s => .ok (.text s)
    | _ => mismatch
  | .json => .ok (.ofJson v)

end Format

/-- What an unedited field shows: the committed value, marked as current.  Blank
units are left out, others are trimmed. -/
def placeholder (committed : Option Value) (units : Option String) : String :=
  match committed with
  | none => "unset (current)"
  | some value =>
    match (units.map Text.trim).filter (!·.isEmpty) with
    | some units => value.display ++ " " ++ units ++ " (current)"
    | none => value.display ++ " (current)"

end DevicePanel
