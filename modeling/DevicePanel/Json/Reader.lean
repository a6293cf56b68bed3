import DevicePanel.Decimal.Scientific
import DevicePanel.Json.Basic
import DevicePanel.Json.Fault

/-!
# Reading JSON text

A reader takes the characters still to be read and gives a value with those that
follow it.  `Json.read` reads a whole text.

Numbers without a point and without an exponent are exact in the range of 64-bit
integers.  All others are rounded: the digits that fit into 64 bits are kept, the
rest of the whole part counts as a power of ten, and the rest of the fraction is
dropped.
-/

namespace DevicePanel.Json

open Decimal (Binary64)

/-- The blanks between the tokens of JSON. -/
def isBlank (c : Char) : Bool := c == ' ' || c == '\n' || c == '\t' || c == '\r'

def skipBlanks (s : List Char) : List Char := s.dropWhile isBlank

/-- The value of a decimal digit. -/
def digitValue (c : Char) : Nat := c.toNat - 48

def startsWithDigit : List Char → Bool
  | c :: _ => c.isDigit
  | [] => false

/-- How deep arrays and objects may be nested. -/
def maxDepth : Nat := 127

/-! ## Words and numbers -/

/-- The rest after the given word. -/
def readWord : List Char → List Char → Except Fault (List Char)
  | [], s => .ok s
  | _ :: _, [] => .error (.before .endInValue [])
  | e :: es, c :: cs => if c == e then readWord es cs else .error (.on .badWord (c :: cs))

/-- The digits that extend `n` without passing `limit`: the number, how many they
are, and the rest. -/
def readDigits (limit : Nat) : Nat → Nat → List Char → Nat × Nat × List Char
  | n, count, [] => (n, count, [])
  | n, count, c :: cs =>
    if c.isDigit && n * 10 + digitValue c ≤ limit then
      readDigits limit (n * 10 + digitValue c) (count + 1) cs
    else (n, count, c :: cs)

/-- The greatest significand that is kept. -/
def maxSignificand : Nat := 18446744073709551615

/-- The greatest exponent that is kept. -/
def maxWrittenExponent : Nat := 2147483647

/-- The number `± significand · 10 ^ exponent`, which ends before `rest`. -/
def scaledNumber (negative : Bool) (significand : Nat) (exponent : Int) (rest : List Char) :
    Except Fault (Number × List Char) :=
  match Binary64.scaled? significand exponent with
  | some x => .ok (.float (if negative then x.negate else x), rest)
  | none => .error (.before .numberTooLarge rest)

/-- The sign of an exponent, `true` for a minus, and the rest. -/
def readExponentSign : List Char → Bool × List Char
  | '+' :: r => (false, r)
  | '-' :: r => (true, r)
  | r => (false, r)

/-- What follows the letter of an exponent. -/
def readExponent (negative : Bool) (significand : Nat) (exponent : Int) (s : List Char) :
    Except Fault (Number × List Char) :=
  let (down, s) := readExponentSign s
  match s with
  | [] => .error (.before .endInValue [])
  | c :: r =>
    if c.isDigit then
      let (written, _, rest) := readDigits maxWrittenExponent (digitValue c) 0 r
      if startsWithDigit rest then
        if significand != 0 && !down then .error (.before .numberTooLarge (rest.drop 1))
        else .ok (.float (.zero negative), rest.dropWhile Char.isDigit)
      else
        scaledNumber negative significand
          (if down then exponent - written else exponent + written) rest
    else .error (.on .badNumber (c :: r))

/-- An exponent, or the end of the number. -/
def readScale (negative : Bool) (significand : Nat) (exponent : Int) :
    List Char → Except Fault (Number × List Char)
  | 'e' :: r => readExponent negative significand exponent r
  | 'E' :: r => readExponent negative significand exponent r
  | r => scaledNumber negative significand exponent r

/-- What follows the point. -/
def readFraction (negative : Bool) (significand : Nat) (exponent : Int) (s : List Char) :
    Except Fault (Number × List Char) :=
  let (significand, count, rest) := readDigits maxSignificand significand 0 s
  if startsWithDigit rest then
    readScale negative significand (exponent - count) (rest.dropWhile Char.isDigit)
  else if count == 0 then
    match rest with
    | [] => .error (.before .endInValue [])
    | _ => .error (.on .badNumber rest)
  else readScale negative significand (exponent - count) rest

/-- A number whose whole part is an integer of the 64-bit range, or its negative;
a negative zero is a float. -/
def wholeNumber (negative : Bool) (n : Nat) : Number :=
  let i : Int := if negative then -n else n
  if negative && n == 0 then .float (.zero true)
  else
    match Number.ofInt? i with
    | some exact => exact
    | none => .float { Binary64.ofNat n with negative := negative }

/-- What follows the whole part, when all its digits were kept. -/
def readAfterWhole (negative : Bool) (n : Nat) : List Char → Except Fault (Number × List Char)
  | '.' :: r => readFraction negative n 0 r
  | 'e' :: r => readExponent negative n 0 r
  | 'E' :: r => readExponent negative n 0 r
  | r => .ok (wholeNumber negative n, r)

/-- What follows the kept digits of a whole part that has more of them. -/
def readLongWhole (negative : Bool) (significand : Nat) (s : List Char) :
    Except Fault (Number × List Char) :=
  let exponent : Int := (s.takeWhile Char.isDigit).length
  match s.dropWhile Char.isDigit with
  | '.' :: r => readFraction negative significand exponent r
  | r => readScale negative significand exponent r

/-- A number without its sign. -/
def readUnsigned (negative : Bool) : List Char → Except Fault (Number × List Char)
  | [] => .error (.before .endInValue [])
  | c :: r =>
    if c == '0' then
      if startsWithDigit r then .error (.on .badNumber r) else readAfterWhole negative 0 r
    else if c.isDigit then
      let (n, _, rest) := readDigits maxSignificand (digitValue c) 0 r
      if startsWithDigit rest then readLongWhole negative n rest
      else readAfterWhole negative n rest
    else .error (.on .badNumber (c :: r))

/-- A number. -/
def readNumber : List Char → Except Fault (Number × List Char)
  | '-' :: r => readUnsigned true r
  | s => readUnsigned false s

/-! ## Strings -/

/-- The value of a hexadecimal digit. -/
def hexValue? (c : Char) : Option Nat :=
  if '0' ≤ c ∧ c ≤ '9' then some (c.toNat - 48)
  else if 'a' ≤ c ∧ c ≤ 'f' then some (c.toNat - 87)
  else if 'A' ≤ c ∧ c ≤ 'F' then some (c.toNat - 55)
  else none

/-- The four hexadecimal digits of an escape: they take four bytes, whatever the
characters are. -/
def readHex (s : List Char) : Except Fault Nat :=
  if Text.byteLength (s.take 4) < 4 then .error (.before .endInString [])
  else
    match s.take 4 |>.mapM hexValue? with
    | some [a, b, c, d] => .ok (((a * 16 + b) * 16 + c) * 16 + d)
    | _ => .error ⟨.badEscape, Text.byteLength s - 4⟩

/-- The second half of a surrogate pair whose first half is `high`, with its own
backslash. -/
def readLowSurrogate (high : Nat) : List Char → Except Fault (Char × Nat)
  | '\\' :: 'u' :: r => do
    let low ← readHex r
    if 0xDC00 ≤ low ∧ low ≤ 0xDFFF then
      .ok (Char.ofNat ((high - 0xD800) * 0x400 + (low - 0xDC00) + 0x10000), 11)
    else .error (.before .loneSurrogate (r.drop 4))
  | ['\\'] => .error (.before .endInString [])
  | '\\' :: r => .error (.on .unpairedSurrogate r)
  | [] => .error (.before .endInString [])
  | r => .error (.on .unpairedSurrogate r)

/-- What an escape stands for, and how many characters it takes after the
backslash. -/
def readEscape : List Char → Except Fault (Char × Nat)
  | [] => .error (.before .endInString [])
  | '"' :: _ => .ok ('"', 1)
  | '\\' :: _ => .ok ('\\', 1)
  | '/' :: _ => .ok ('/', 1)
  | 'b' :: _ => .ok (Char.ofNat 8, 1)
  | 'f' :: _ => .ok (Char.ofNat 12, 1)
  | 'n' :: _ => .ok ('\n', 1)
  | 'r' :: _ => .ok ('\r', 1)
  | 't' :: _ => .ok ('\t', 1)
  | 'u' :: r => do
    let n ← readHex r
    if 0xDC00 ≤ n ∧ n ≤ 0xDFFF then .error (.before .loneSurrogate (r.drop 4))
    else if 0xD800 ≤ n ∧ n ≤ 0xDBFF then readLowSurrogate n (r.drop 4)
    else .ok (Char.ofNat n, 5)
  | s => .error (.on .badEscape s)

/-- The characters up to the closing quote, after `skip` characters that an
escape has taken; `done` are those before, last first. -/
def readString (done : List Char) : Nat → List Char → Except Fault (String × List Char)
  | _, [] => .error (.before .endInString [])
  | skip + 1, _ :: r => readString done skip r
  | 0, c :: r =>
    if c == '"' then .ok (String.ofList done.reverse, r)
    else if c == '\\' then
      match readEscape r with
      | .ok (d, taken) => readString (d :: done) taken r
      | .error f => .error f
    else if c.toNat < 32 then .error (.before .controlCharacter r)
    else readString (c :: done) 0 r

/-! ## Arrays and objects -/

/-- The start of the next item of an array, or nothing before its bracket. -/
def nextItem? (first : Bool) (s : List Char) : Except Fault (Option (List Char)) :=
  match skipBlanks s with
  | [] => .error (.before .endInArray [])
  | ']' :: _ => .ok none
  | c :: r =>
    if first then .ok (some (c :: r))
    else if c == ',' then
      match skipBlanks r with
      | [] => .error (.before .endInValue [])
      | ']' :: r => .error (.on .trailingComma (']' :: r))
      | r => .ok (some r)
    else .error (.on .noArrayComma (c :: r))

/-- The characters after the quote of the next key of an object, or nothing before
its brace. -/
def nextKey? (first : Bool) (s : List Char) : Except Fault (Option (List Char)) :=
  match skipBlanks s with
  | [] => .error (.before .endInObject [])
  | '}' :: _ => .ok none
  | c :: r =>
    if first then
      if c == '"' then .ok (some r) else .error (.on .keyNotText (c :: r))
    else if c == ',' then
      match skipBlanks r with
      | [] => .error (.before .endInValue [])
      | '"' :: r => .ok (some r)
      | '}' :: r => .error (.on .trailingComma ('}' :: r))
      | r => .error (.on .keyNotText r)
    else .error (.on .noObjectComma (c :: r))

/-- The rest after the colon of a field. -/
def readColon (s : List Char) : Except Fault (List Char) :=
  match skipBlanks s with
  | [] => .error (.before .endInObject [])
  | ':' :: r => .ok r
  | r => .error (.on .noColon r)

/-- The rest after the bracket that closes an array. -/
def closeArray (s : List Char) : Except Fault (List Char) :=
  match skipBlanks s with
  | [] => .error (.before .endInArray [])
  | ']' :: r => .ok r
  | ',' :: r =>
    match skipBlanks r with
    | ']' :: r => .error (.on .trailingComma (']' :: r))
    | r => .error (.on .trailingCharacters r)
  | r => .error (.on .trailingCharacters r)

/-- The rest after the brace that closes an object. -/
def closeObject (s : List Char) : Except Fault (List Char) :=
  match skipBlanks s with
  | [] => .error (.before .endInObject [])
  | '}' :: r => .ok r
  | ',' :: r => .error (.on .trailingComma (',' :: r))
  | r => .error (.on .trailingCharacters r)

/-- The items of an array up to and with its bracket.  Each item takes a
character, so a fuel of one more than the characters left suffices. -/
def readItems (item : List Char → Except Fault (Json × List Char)) :
    Nat → List Json → List Char → Except Fault (List Json × List Char)
  | 0, _, s => .error (.before .endInArray s)
  | fuel + 1, done, s =>
    match nextItem? done.isEmpty s with
    | .error f => .error f
    | .ok none => (closeArray s).map fun rest => (done.reverse, rest)
    | .ok (some r) =>
      match item r with
      | .error f => .error f
      | .ok (v, r) => readItems item fuel (v :: done) r

/-- The fields of an object up to and with its brace, in the order of the text;
the fuel is as for `readItems`. -/
def readFields (item : List Char → Except Fault (Json × List Char)) :
    Nat → List (String × Json) → List Char → Except Fault (List (String × Json) × List Char)
  | 0, _, s => .error (.before .endInObject s)
  | fuel + 1, done, s =>
    match nextKey? done.isEmpty s with
    | .error f => .error f
    | .ok none => (closeObject s).map fun rest => (done.reverse, rest)
    | .ok (some r) =>
      let field := do
        let (key, r) ← readString [] 0 r
        let r ← readColon r
        let (v, r) ← item r
        .ok ((key, v), r)
      match field with
      | .error f => .error f
      | .ok (entry, r) => readFields item fuel (entry :: done) r

/-! ## Values -/

/-- A value, where `item` reads the items of arrays and objects; without it they
are nested too deep. -/
def readWith (item : Option (List Char → Except Fault (Json × List Char))) (s : List Char) :
    Except Fault (Json × List Char) :=
  match skipBlanks s with
  | [] => .error (.before .endInValue [])
  | c :: r =>
    match c with
    | 'n' => (readWord "ull".toList r).map fun rest => (.null, rest)
    | 't' => (readWord "rue".toList r).map fun rest => (.bool true, rest)
    | 'f' => (readWord "alse".toList r).map fun rest => (.bool false, rest)
    | '"' => (readString [] 0 r).map fun (t, rest) => (.text t, rest)
    | '[' =>
      match item with
      | none => .error (.on .tooDeep (c :: r))
      | some item =>
        (readItems item (r.length + 1) [] r).map fun (items, rest) => (.array items, rest)
    | '{' =>
      match item with
      | none => .error (.on .tooDeep (c :: r))
      | some item =>
        (readFields item (r.length + 1) [] r).map fun (fields, rest) => (ofFields fields, rest)
    | _ =>
      if c == '-' || c.isDigit then
        (readNumber (c :: r)).map fun (n, rest) => (.number n, rest)
      else .error (.on .noValue (c :: r))

/-- A value in which arrays and objects are nested at most `depth` deep. -/
def readValue : Nat → List Char → Except Fault (Json × List Char)
  | 0 => readWith none
  | depth + 1 => readWith (some (readValue depth))

/-- Nothing but blanks may follow a text's value. -/
def readEnd (s : List Char) : Except Fault Unit :=
  match skipBlanks s with
  | [] => .ok ()
  | r => .error (.on .trailingCharacters r)

/-- The value of a whole text. -/
def readChars (s : List Char) : Except Fault Json := do
  let (v, rest) ← readValue maxDepth s
  readEnd rest
  .ok v

/-- The value of a whole text, or the message of its first fault. -/
def read (source : String) : Except String Json :=
  (readChars source.toList).mapError (Fault.message source.toList)

end DevicePanel.Json
