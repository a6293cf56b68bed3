import DevicePanel.Text.Blank

/-!
# Value formats

The format of a parameter is the declared kind of its values.  It decides which
text can be confirmed for the parameter, and whether the parameter is edited with
a switch or with a text field.
-/

namespace DevicePanel

/-- The declared kind of a parameter's values. -/
inductive Format where
  /-- A whole number. -/
  | number
  /-- A whole number shown with its units. -/
  | numberWithUnits
  /-- On or off. -/
  | bool
  /-- Any text, taken as it is. -/
  | text
  /-- Any JSON literal. -/
  | json
  deriving DecidableEq, Repr

namespace Format

def all : List Format := [number, numberWithUnits, bool, text, json]

/-- The name of a format in sheets and on the command line. -/
def tag : Format → String
  | .number => "number"
  | .numberWithUnits => "number+units"
  | .bool => "bool"
  | .text => "string"
  | .json => "json"

/-- The format with the given tag, in any letter case and between any blanks. -/
def ofTag? (tag : String) : Option Format :=
  all.find? fun f => f.tag == (Text.trim tag).toLower

/-- A boolean parameter is edited with a switch. -/
def isBoolean (f : Format) : Bool := f == bool

/-- The value is followed by the parameter's units. -/
def hasUnits (f : Format) : Bool := f == numberWithUnits

/-- What is asked for where a parameter has no label. -/
def prompt : Format → String
  | .number | .numberWithUnits => "Enter a whole number"
  | .bool => "Toggle on or off"
  | .text => "Enter text"
  | .json => "Enter a JSON literal"

/-- The regular expression that confirmed text has to match. -/
def pattern : Format → String
  | .number | .numberWithUnits => "^[0-9]+$"
  | .bool => "^(true|false|0|1)$"
  | .text | .json => "(?s)^.*$"

/-- The text matches the format's pattern. -/
def accepts (f : Format) (s : String) : Bool :=
  match f with
  | .number | .numberWithUnits => !s.isEmpty && s.toList.all Char.isDigit
  | .bool => s == "true" || s == "false" || s == "0" || s == "1"
  | .text | .json => true

end Format

end DevicePanel
