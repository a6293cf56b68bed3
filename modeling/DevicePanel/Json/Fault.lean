import DevicePanel.Text.Position

/-!
# Faults in JSON text

What can be wrong with a JSON text and where.  A fault counts its place from the
end of the text, so a reader needs no counter: the bytes that are left tell.
-/

namespace DevicePanel.Json

/-- What is wrong with a JSON text. -/
inductive Problem where
  | endInArray
  | endInObject
  | endInString
  | endInValue
  | noColon
  | noArrayComma
  | noObjectComma
  | badWord
  | noValue
  | badEscape
  | badNumber
  | numberTooLarge
  | controlCharacter
  | keyNotText
  | loneSurrogate
  | unpairedSurrogate
  | trailingComma
  | trailingCharacters
  | tooDeep
  /-- A problem that the grammar does not know, in words. -/
  | custom (text : String)
  deriving DecidableEq

/-- The wording of a problem. -/
def Problem.message : Problem → String
  | .endInArray => "EOF while parsing a list"
  | .endInObject => "EOF while parsing an object"
  | .endInString => "EOF while parsing a string"
  | .endInValue => "EOF while parsing a value"
  | .noColon => "expected `:`"
  | .noArrayComma => "expected `,` or `]`"
  | .noObjectComma => "expected `,` or `\x7d`"
  | .badWord => "expected ident"
  | .noValue => "expected value"
  | .badEscape => "invalid escape"
  | .badNumber => "invalid number"
  | .numberTooLarge => "number out of range"
  | .controlCharacter =>
    "control character (\\u0000-\\u001F) found while parsing a string"
  | .keyNotText => "key must be a string"
  | .loneSurrogate => "lone leading surrogate in hex escape"
  | .unpairedSurrogate => "unexpected end of hex escape"
  | .trailingComma => "trailing comma"
  | .trailingCharacters => "trailing characters"
  | .tooDeep => "recursion limit exceeded"
  | .custom message => message

/-- A problem, and the number of bytes that are left behind its place. -/
structure Fault where
  problem : Problem
  left : Nat
  deriving DecidableEq

namespace Fault

/-- A fault noticed with `rest` still to be read. -/
def before (problem : Problem) (rest : List Char) : Fault :=
  ⟨problem, Text.byteLength rest⟩

/-- A fault of the first byte of `rest`: its place is behind that byte. -/
def on (problem : Problem) (rest : List Char) : Fault :=
  ⟨problem, Text.byteLength rest - 1⟩

/-- The message for a fault in `source`, with its line and column. -/
def message (source : List Char) (f : Fault) : String :=
  let p := Text.Position.ofBytes source (Text.byteLength source - f.left)
  s!"{f.problem.message} at line {p.line} column {p.column}"

end Fault

end DevicePanel.Json
