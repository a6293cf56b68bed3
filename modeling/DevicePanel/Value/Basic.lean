import DevicePanel.Json.Printer

/-!
# Parameter values

A value is a JSON value sorted by its shape: numbers, booleans and texts stand for
themselves, and arrays, objects and the null are structured.
-/

namespace DevicePanel

/-- A value of a parameter. -/
inductive Value where
  | number (value : Json.Number)
  | bool (value : Bool)
  | text (value : String)
  /-- An array, an object or null. -/
  | structured (value : Json)

namespace Value

/-- The value that a JSON value stands for. -/
def ofJson : Json → Value
  | .number n => .number n
  | .bool b => .bool b
  | .text s => .text s
  | v => .structured v

/-- The JSON value that a value is written as. -/
def toJson : Value → Json
  | .number n => .number n
  | .bool b => .bool b
  | .text s => .text s
  | .structured v => v

/-- The first shape that fits a JSON value, in the order number, boolean, text,
structured. -/
def decode (v : Json) : Value :=
  let asNumber := match v with
    | .number n => some (Value.number n)
    | _ => none
  let asBool := match v with
    | .bool b => some (Value.bool b)
    | _ => none
  let asText := match v with
    | .text s => some (Value.text s)
    | _ => none
  (asNumber <|> asBool <|> asText).getD (.structured v)

/-- How a value is shown: a text without quotes, all else as compact JSON. -/
def display : Value → String
  | .text s => s
  | v => v.toJson.compact

def toBool? : Value → Option Bool
  | .bool b => some b
  | _ => none

end Value

end DevicePanel
