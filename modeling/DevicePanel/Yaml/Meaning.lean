import DevicePanel.Json.Number

/-!
# What plain scalars mean

A plain scalar may stand for null, a flag or a number; every other text stands
for itself.  Integers may be written in base 2, 8, 10 and 16.  Decimal digits
after a leading zero are no number.
-/

namespace DevicePanel.Yaml

open Decimal (Binary64)

/-- What a scalar stands for. -/
inductive Meaning where
  | null
  | flag (value : Bool)
  | integer (value : Int)
  | float (value : Binary64)
  | infinity (negative : Bool)
  | notANumber
  | text (value : String)

namespace Meaning

def isNull (s : String) : Bool := s == "null" || s == "Null" || s == "NULL" || s == "~"

def flag? (s : String) : Option Bool :=
  if s == "true" || s == "True" || s == "TRUE" then some true
  else if s == "false" || s == "False" || s == "FALSE" then some false
  else none

/-! ## Integers -/

/-- The value of a digit of the base. -/
def digit? (base : Nat) (c : Char) : Option Nat :=
  let value :=
    if c.isDigit then c.toNat - 48
    else if 'a' ≤ c ∧ c ≤ 'z' then c.toNat - 87
    else if 'A' ≤ c ∧ c ≤ 'Z' then c.toNat - 55
    else base
  if value < base then some value else none

/-- The number that digits of the base stand for; there has to be one at least. -/
def natural? (base : Nat) (cs : List Char) : Option Nat :=
  if cs.isEmpty then none
  else cs.foldlM (fun n c => (digit? base c).map (n * base + ·)) 0

/-- The text without a sign. -/
def unsigned : List Char → List Char
  | '+' :: r => r
  | '-' :: r => r
  | cs => cs

/-- Digits behind a leading zero, which are a text. -/
def isPadded (cs : List Char) : Bool :=
  match unsigned cs with
  | '0' :: d :: r => (d :: r).all Char.isDigit
  | _ => false

/-- The number of digits behind a mark for their base, or of decimal digits. -/
def magnitude? : List Char → Option Nat
  | '0' :: 'x' :: r => natural? 16 r
  | '0' :: 'o' :: r => natural? 8 r
  | '0' :: 'b' :: r => natural? 2 r
  | cs => natural? 10 cs

/-- Integers reach from the negative of this number up to, and below, its double. -/
def integerLimit : Nat := 170141183460469231731687303715884105728

/-- The integer of a text, within 128 bits. -/
def integer? (cs : List Char) : Option Int :=
  if isPadded cs then none
  else
    match cs with
    | '-' :: r => ((magnitude? r).filter (· ≤ integerLimit)).map fun n => -(n : Int)
    | '+' :: r => ((magnitude? r).filter (· < 2 * integerLimit)).map Int.ofNat
    | r => ((magnitude? r).filter (· < 2 * integerLimit)).map Int.ofNat

/-! ## Numbers with a point or an exponent -/

/-- The number `digits · 10 ^ exponent` of the format that is nearest, if it is in
range.  Exponents that lead far beyond the range are not computed with. -/
def nearest? (negative : Bool) (digits : Nat) (exponent : Int) : Option Binary64 :=
  let order := (Nat.toDigits 10 digits).length + exponent
  if digits == 0 || order < -400 then some (.zero negative)
  else if 400 < order then none
  else Binary64.ofDecimal? negative digits exponent

/-- The exponent behind the digits of a number. -/
def exponent? : List Char → Option Int
  | [] => some 0
  | c :: r =>
    if c == 'e' || c == 'E' then
      match r with
      | '-' :: r => (natural? 10 r).map fun n => -(n : Int)
      | '+' :: r => (natural? 10 r).map Int.ofNat
      | r => (natural? 10 r).map Int.ofNat
    else none

/-- The number of digits, which may have a point among them, and an exponent. -/
def decimal? (negative : Bool) (cs : List Char) : Option Binary64 := do
  let whole := cs.takeWhile Char.isDigit
  let (fraction, rest) := match cs.dropWhile Char.isDigit with
    | '.' :: r => (r.takeWhile Char.isDigit, r.dropWhile Char.isDigit)
    | r => ([], r)
  let digits ← natural? 10 (whole ++ fraction)
  let exponent ← exponent? rest
  nearest? negative digits (exponent - fraction.length)

/-- The finite number of a text. -/
def finite? (cs : List Char) : Option Binary64 :=
  match cs with
  | '-' :: r => decimal? true r
  | '+' :: r => decimal? false r
  | r => decimal? false r

/-- The number of a text that is no integer. -/
def float? (s : String) : Option Meaning :=
  if [".inf", ".Inf", ".INF", "+.inf", "+.Inf", "+.INF"].contains s then some (.infinity false)
  else if ["-.inf", "-.Inf", "-.INF"].contains s then some (.infinity true)
  else if [".nan", ".NaN", ".NAN"].contains s then some .notANumber
  else (finite? s.toList).map .float

/-- What a plain scalar without a tag stands for. -/
def ofPlain (s : String) : Meaning :=
  if s.isEmpty || isNull s then .null
  else
    match flag? s with
    | some b => .flag b
    | none =>
      match integer? s.toList with
      | some i => .integer i
      | none =>
        if isPadded s.toList then .text s
        else (float? s).getD (.text s)

/-- The text of a finite number, always in positional notation. -/
def decimalText (x : Binary64) : String :=
  let d := Decimal.shortest x
  let body := String.ofList (Json.Number.positional (Json.Number.natDigits d.digits) d.exponent)
  if x.negative then "-" ++ body else body

end Meaning

end DevicePanel.Yaml
