import DevicePanel.Json.Reader
import DevicePanel.Sheet.Field

/-!
# Sheets declared in JSON

Reads the declaration of a sheet from JSON text.  A record is an object, or an
array of its first fields in their order.

A fault of the grammar is placed where it is noticed.  A fault of the fields is
placed later: where the reader stands after it has tried to close the record.
-/

namespace DevicePanel.SheetDeclaration

open Json (Fault Problem)

/-- Why a declaration cannot be read: a fault with its place, or a fault of the
fields, noticed before `rest`, that has none yet. -/
inductive JsonFailure where
  | placed (fault : Fault)
  | unplaced (error : FieldError) (rest : List Char)

namespace JsonReader

/-- A reader of a part of a declaration. -/
abbrev Reader (α : Type) := List Char → Except JsonFailure (α × List Char)

def fault (f : Fault) : Except JsonFailure α := .error (.placed f)

/-- Lift a result of the grammar's readers. -/
def lift : Except Fault α → Except JsonFailure α
  | .ok a => .ok a
  | .error f => fault f

/-- Give a fault of the fields the place before `rest`. -/
def place (error : FieldError) (rest : List Char) : Fault :=
  .before (.custom error.message) rest

/-- How a number that was found is described. -/
def foundNumber : Json.Number → String
  | .integer i _ => foundInteger i
  | .float x => "floating point `" ++ String.ofList (Json.Number.floatText x) ++ "`"

/-- The fault of a value that is not of the expected type. -/
def wrongType (expected : String) (s : List Char) : Except JsonFailure α :=
  let wrong (found : String) (rest : List Char) : Except JsonFailure α :=
    fault (place (.wrongType found expected) rest)
  match s with
  | 'n' :: r => do wrong "null" (← lift (Json.readWord "ull".toList r))
  | 't' :: r => do wrong (foundFlag true) (← lift (Json.readWord "rue".toList r))
  | 'f' :: r => do wrong (foundFlag false) (← lift (Json.readWord "alse".toList r))
  | '"' :: r => do
    let (text, rest) ← lift (Json.readString [] 0 r)
    wrong (foundText text) rest
  | '[' :: _ => wrong "sequence" s
  | '{' :: _ => wrong "map" s
  | c :: _ =>
    if c == '-' || c.isDigit then do
      let (n, rest) ← lift (Json.readNumber s)
      wrong (foundNumber n) rest
    else fault (.on .noValue s)
  | [] => fault (.before .endInValue [])

def text : Reader String := fun s =>
  match Json.skipBlanks s with
  | '"' :: r => lift (Json.readString [] 0 r)
  | r => wrongType expectation.text r

def flag : Reader Bool := fun s =>
  match Json.skipBlanks s with
  | 't' :: r => lift ((Json.readWord "rue".toList r).map fun rest => (true, rest))
  | 'f' :: r => lift ((Json.readWord "alse".toList r).map fun rest => (false, rest))
  | r => wrongType expectation.flag r

/-- A value or null. -/
def optional (reader : Reader α) : Reader (Option α) := fun s =>
  match Json.skipBlanks s with
  | 'n' :: r => lift ((Json.readWord "ull".toList r).map fun rest => (none, rest))
  | r => (reader r).map fun (a, rest) => (some a, rest)

def format : Reader Format := fun s => do
  let (tag, rest) ← text s
  match Format.ofTag tag with
  | .ok f => .ok (f, rest)
  | .error e => .error (.unplaced (.invalid e.message) rest)

/-- A JSON value within `depth` further levels. -/
def json (depth : Nat) : Reader Json := fun s => lift (Json.readValue depth s)

/-- Where the reader stands after trying to close an object. -/
def afterObject (s : List Char) : List Char :=
  match Json.skipBlanks s with
  | '}' :: r => r
  | r => r

/-- Where the reader stands after trying to close an array. -/
def afterArray (s : List Char) : List Char :=
  match Json.skipBlanks s with
  | ']' :: r => r
  | ',' :: r => Json.skipBlanks r
  | r => r

/-- Close what `body` has read, placing the fault of its fields. -/
def closing (close : List Char → Except Fault (List Char)) (after : List Char → List Char)
    (body : Except JsonFailure (α × List Char)) : Except JsonFailure (α × List Char) :=
  match body with
  | .error (.placed f) => fault f
  | .error (.unplaced error rest) => fault (place error (after rest))
  | .ok (a, rest) => (lift (close rest)).map fun rest => (a, rest)

section Record

variable {F D R : Type} (kind : RecordKind F D R)
  (readField : F → D → Reader D)

/-- The fields of an object before its brace; the fuel is one more than the
characters left. -/
def fields : Nat → Bool → D → Reader R
  | 0, _, _, s => fault (.before .endInObject s)
  | fuel + 1, first, d, s => do
    match ← lift (Json.nextKey? first s) with
    | none =>
      match kind.finish d with
      | .ok r => .ok (r, s)
      | .error e => .error (.unplaced e s)
    | some r =>
      let (name, r) ← lift (Json.readString [] 0 r)
      match kind.newField? d name with
      | .error e => .error (.unplaced e r)
      | .ok f =>
        let r ← lift (Json.readColon r)
        let (d, r) ← readField f d r
        fields fuel false d r

/-- The fields of an array before its bracket, where `count` have been read. -/
def listed : List F → Nat → D → Reader R
  | [], _, d, s =>
    match kind.finish d with
    | .ok r => .ok (r, s)
    | .error e => .error (.unplaced e s)
  | f :: rest, count, d, s => do
    match ← lift (Json.nextItem? (count == 0) s) with
    | none =>
      match kind.checkLength count, kind.finish d with
      | .error e, _ => .error (.unplaced e s)
      | .ok _, .error e => .error (.unplaced e s)
      | .ok _, .ok r => .ok (r, s)
    | some r =>
      let (d, r) ← readField f d r
      listed rest (count + 1) d r

/-- A record, as an object or as an array. -/
def record : Reader R := fun s =>
  match Json.skipBlanks s with
  | '{' :: r =>
    closing Json.closeObject afterObject (fields kind readField (r.length + 1) true kind.empty r)
  | '[' :: r =>
    closing Json.closeArray afterArray (listed kind readField kind.fields 0 kind.empty r)
  | r => wrongType kind.description r

end Record

/-- The items of an array before its bracket; the fuel is one more than the
characters left. -/
def items (reader : Reader α) : Nat → List α → Reader (List α)
  | 0, _, s => fault (.before .endInArray s)
  | fuel + 1, done, s => do
    match ← lift (Json.nextItem? done.isEmpty s) with
    | none => .ok (done.reverse, s)
    | some r =>
      let (a, r) ← reader r
      items reader fuel (a :: done) r

def list (reader : Reader α) : Reader (List α) := fun s =>
  match Json.skipBlanks s with
  | '[' :: r => closing Json.closeArray afterArray (items reader (r.length + 1) [] r)
  | r => wrongType expectation.list r

/-- How deep a parameter's value may be nested inside a sheet. -/
def valueDepth : Nat := Json.maxDepth - 3

def parameterField (f : ParameterField) (d : ParameterDraft) : Reader ParameterDraft := fun s =>
  match f with
  | .key => (text s).map fun (v, r) => ({ d with key := some v }, r)
  | .label => (optional text s).map fun (v, r) => ({ d with label := some v }, r)
  | .format => (format s).map fun (v, r) => ({ d with format := some v }, r)
  | .units => (optional text s).map fun (v, r) => ({ d with units := some v }, r)
  | .compact => (flag s).map fun (v, r) => ({ d with compact := some v }, r)
  | .value => (optional (json valueDepth) s).map fun (v, r) => ({ d with value := some v }, r)

def sheetField (f : SheetField) (d : SheetDraft) : Reader SheetDraft := fun s =>
  match f with
  | .theme => (optional text s).map fun (v, r) => ({ d with theme := some v }, r)
  | .connected => (flag s).map fun (v, r) => ({ d with connected := some v }, r)
  | .parameters =>
    (list (record parameterKind parameterField) s).map fun (v, r) =>
      ({ d with parameters := some v }, r)

end JsonReader

/-- The declaration in a JSON text, or the message of its first fault. -/
def ofJsonText (source : String) : Except String SheetDeclaration :=
  let chars := source.toList
  let result := do
    let (d, rest) ← JsonReader.record sheetKind JsonReader.sheetField chars
    JsonReader.lift (Json.readEnd rest)
    .ok d
  match result with
  | .ok d => .ok d
  | .error (.placed f) => .error (f.message chars)
  | .error (.unplaced e rest) => .error ((JsonReader.place e rest).message chars)

end DevicePanel.SheetDeclaration
