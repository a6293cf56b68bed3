import DevicePanel.Sheet.Field
import DevicePanel.Yaml.Document
import DevicePanel.Yaml.Meaning

/-!
# Typed reading of YAML

Readers for the values that declarations consist of.  A fault of a value is placed
at the node where it was noticed and names the way from the root to that node.
-/

namespace DevicePanel.Yaml

/-! ## Faults -/

/-- A step from a node to a node in it. -/
inductive PathStep where
  | index (n : Nat)
  | key (name : String)
  /-- A key that is no scalar. -/
  | unnamed

/-- A way from the root, written from its last step. -/
def pathText : List PathStep → String
  | [] => "."
  | .index n :: outer => pathText outer ++ s!"[{n}]"
  | .key name :: outer => (if outer.isEmpty then "" else pathText outer ++ ".") ++ name
  | .unnamed :: outer => (if outer.isEmpty then "" else pathText outer ++ ".") ++ "?"

/-- Why a document cannot be read. -/
inductive Failure where
  /-- The text has an error where the reader goes on. -/
  | syntaxError (error : Error)
  /-- The text ends where the reader goes on. -/
  | ended
  /-- Collections are nested too deep; the mark is that of the innermost. -/
  | tooDeep (mark : Mark)
  /-- Aliases have been followed too often. -/
  | tooManyAliases
  | unplaced (error : FieldError)
  | placed (error : FieldError) (path : List PathStep) (mark : Mark)

namespace Failure

def message : Failure → String
  | .syntaxError error => error.message
  | .ended => "EOF while parsing a value"
  | .tooDeep mark => "recursion limit exceeded" ++ Error.atText mark
  | .tooManyAliases => "repetition limit exceeded"
  | .unplaced error => error.message
  | .placed error path mark =>
    (if path.isEmpty then "" else pathText path ++ ": ") ++ error.message ++ Error.atText mark

end Failure

/-! ## Readers -/

/-- How far a reader has come: the next item, and how many aliases it has followed. -/
structure Progress where
  next : Nat
  followed : Nat

/-- A reader of the node at the next item, which the path leads to. -/
abbrev Reader (α : Type) :=
  Document → List PathStep → Progress → Except Failure (α × Progress)

namespace Reader

variable {α β : Type}

/-- How often aliases may be followed for each item of a document. -/
def aliasesPerItem : Nat := 100

/-- How deep collections may be nested. -/
def maxDepth : Nat := 128

def map (f : α → β) (reader : Reader α) : Reader β := fun d path p =>
  (reader d path p).map fun (a, p) => (f a, p)

/-- The next item, if the document does not end before it. -/
def item (d : Document) (p : Progress) : Except Failure (Item × Mark) :=
  match d.items[p.next]?, d.fault with
  | some found, _ => .ok found
  | none, some error => .error (.syntaxError error)
  | none, none => .error .ended

/-- Go to the item that an alias stands for. -/
def jump (d : Document) (anchor : Nat) (p : Progress) : Except Failure Progress :=
  if d.items.size * aliasesPerItem ≤ p.followed then .error .tooManyAliases
  else
    match d.target? anchor with
    | some next => .ok ⟨next, p.followed + 1⟩
    | none => .error .ended

/-- Read the node that an alias stands for, and go on behind the alias. -/
def following (reader : Reader α) : Reader α := fun d path p => do
  match ← item d p with
  | (.alias anchor, _) =>
    let target ← jump d anchor p
    let (a, q) ← reader d path target
    .ok (a, ⟨p.next + 1, q.followed⟩)
  | _ => reader d path p

/-- Place a fault that has no place yet. -/
def place (path : List PathStep) (mark : Mark) : Except Failure α → Except Failure α
  | .error (.unplaced error) => .error (.placed error path mark)
  | result => result

/-- Read the next node by its first item; faults are placed there. -/
def node (body : Item → Mark → Reader α) : Reader α :=
  following fun d path p => do
    let (found, mark) ← item d p
    place path mark (body found mark d path ⟨p.next + 1, p.followed⟩)

def fail (error : FieldError) : Reader α := fun _ _ _ => .error (.unplaced error)

def pure (a : α) : Reader α := fun _ _ p => .ok (a, p)

/-! ## Scalars -/

/-- What a scalar stands for.  A tag decides what a text has to be; without one, or
with a local one, a plain scalar is read for what it looks like. -/
def meaning (s : Scalar) : Except FieldError Meaning :=
  let read (found : Option Meaning) (expected : String) : Except FieldError Meaning :=
    match found with
    | some m => .ok m
    | none => .error (.wrongValue (foundText s.text) expected)
  let untagged : Meaning := if s.style == .plain then .ofPlain s.text else .text s.text
  match s.tag with
  | none => .ok untagged
  | some tag =>
    if tag == .flag then read ((Meaning.flag? s.text).map .flag) "a boolean"
    else if tag == .integer then
      read ((Meaning.integer? s.text.toList).map .integer) "an integer"
    else if tag == .float then read (Meaning.float? s.text) "a float"
    else if tag == .null then read (if Meaning.isNull s.text then some .null else none) "null"
    else if tag.isLocal then .ok untagged
    else .ok (.text s.text)

/-- How a meaning is described in messages. -/
def foundMeaning : Meaning → String
  | .null => "unit value"
  | .flag b => foundFlag b
  | .integer i =>
    foundInteger i ++
      if 18446744073709551616 ≤ i then " as u128"
      else if i < -9223372036854775808 then " as i128"
      else ""
  | .float x => "floating point `" ++ Meaning.decimalText x ++ "`"
  | .infinity negative => "floating point `" ++ (if negative then "-inf" else "inf") ++ "`"
  | .notANumber => "floating point `NaN`"
  | .text s => foundText s

/-- The fault of a node that is not of the expected type. -/
def wrongType (found : Item) (expected : String) : Reader α :=
  match found with
  | .scalar s =>
    match meaning s with
    | .ok m => fail (.wrongType (foundMeaning m) expected)
    | .error e => fail e
  | .sequenceStart _ => fail (.wrongType "sequence" expected)
  | .mappingStart _ => fail (.wrongType "map" expected)
  | _ => fun _ _ _ => .error .ended

/-- A plain scalar without a text, or no node at all. -/
def isEmpty : Item → Bool
  | .nothing => true
  | .scalar s => s.text.isEmpty && s.style == .plain
  | _ => false

/-- The text of a scalar, whatever it looks like. -/
def text (expected : String) : Reader String :=
  node fun found _ =>
    match found with
    | .scalar s => pure s.text
    | found => wrongType found expected

def flag : Reader Bool :=
  node fun found _ =>
    match found with
    | .scalar s =>
      if s.style == .plain || (s.style == .literal && s.tag == some .flag) then
        match Meaning.flag? s.text with
        | some b => pure b
        | none => wrongType found expectation.flag
      else wrongType found expectation.flag
    | found => wrongType found expectation.flag

/-- A scalar that says that there is no value. -/
def isAbsent (s : Scalar) : Except FieldError Bool :=
  if s.style != .plain then .ok false
  else
    match s.tag with
    | some tag =>
      if tag != .null then .ok false
      else if Meaning.isNull s.text then .ok true
      else .error (.wrongValue (foundText s.text) "null")
    | none => .ok (s.text.isEmpty || Meaning.isNull s.text)

/-- A value or null. -/
def optional (reader : Reader α) : Reader (Option α) :=
  following fun d path p => do
    let absent ← match ← item d p with
      | (.scalar s, _) => (isAbsent s).mapError .unplaced
      | (.nothing, _) => .ok true
      | _ => .ok false
    if absent then .ok (none, ⟨p.next + 1, p.followed⟩)
    else map some reader d path p

/-! ## Collections -/

/-- The items of a sequence up to its end, of which the first has the given index;
the fuel is one more than the items of the document. -/
def items (reader : Reader α) : Nat → Nat → Reader (List α)
  | 0, _ => fun _ _ _ => .error .ended
  | fuel + 1, index => fun d path p => do
    match ← item d p with
    | (.sequenceEnd, _) => .ok ([], p)
    | _ =>
      let (a, p) ← reader d (.index index :: path) p
      let (rest, p) ← items reader fuel (index + 1) d path p
      .ok (a :: rest, p)

/-- The step to the value of the key at the next item. -/
def keyStep : Item → PathStep
  | .scalar s => .key s.text
  | _ => .unnamed

/-- The entries of a mapping up to its end, put together from a start value; the
fuel is one more than the items of the document. -/
def entries (key : β → Reader α) (value : α → β → Reader β) : Nat → β → Reader β
  | 0, _ => fun _ _ _ => .error .ended
  | fuel + 1, b => fun d path p => do
    match ← item d p with
    | (.mappingEnd, _) => .ok (b, p)
    | (found, _) =>
      let (a, p) ← key b d path p
      let (b, p) ← value a b d (keyStep found :: path) p
      entries key value fuel b d path p

/-- What is read inside a collection, and its end. -/
def within (reader : Nat → Reader α) : Reader α := fun d path p => do
  let (a, p) ← reader (d.items.size + 1) d path p
  .ok (a, ⟨p.next + 1, p.followed⟩)

def list (reader : Reader α) : Reader (List α) :=
  node fun found _ =>
    match found with
    | .sequenceStart _ => within fun fuel => items reader fuel 0
    | found => if isEmpty found then pure [] else wrongType found expectation.list

section Record

variable {F D R : Type} (kind : RecordKind F D R) (readField : F → D → Reader D)

def finish (draft : D) : Reader R :=
  match kind.finish draft with
  | .ok r => pure r
  | .error e => fail e

/-- The name of a field.  A field that is there already is a fault of the record,
not of the name. -/
def fieldName (draft : D) : Reader F := fun d path p => do
  let (f, p) ← node (fun found _ =>
    match found with
    | .scalar s =>
      match kind.field? s.text with
      | .ok f => pure f
      | .error e => fail e
    | found => wrongType found expectation.fieldName) d path p
  if kind.holds draft f then .error (.unplaced (.duplicate (kind.name f))) else .ok (f, p)

/-- A record: a mapping of its fields. -/
def record : Reader R :=
  node fun found _ =>
    match found with
    | .mappingStart _ => fun d path p => do
      let (draft, p) ←
        entries (fieldName kind) readField (d.items.size + 1) kind.empty d path p
      let (r, p) ← finish kind draft d path p
      .ok (r, ⟨p.next + 1, p.followed⟩)
    | found => if isEmpty found then finish kind kind.empty else wrongType found kind.description

end Record

/-! ## JSON values -/

/-- The JSON value that a meaning stands for; numbers that JSON does not have are
null. -/
def jsonOfMeaning : Meaning → Except FieldError Json
  | .null => .ok .null
  | .flag b => .ok (.bool b)
  | .integer i =>
    match Json.Number.ofInt? i with
    | some n => .ok (.number n)
    | none => .error (.invalid "JSON number out of range")
  | .float x => .ok (.number (.float x))
  | .infinity _ | .notANumber => .ok .null
  | .text s => .ok (.text s)

def jsonOfScalar (s : Scalar) : Reader Json :=
  match meaning s >>= jsonOfMeaning with
  | .ok v => pure v
  | .error e => fail e

/-- A node that may be any JSON value, with collections nested up to a depth. -/
def json : Nat → Reader Json
  | 0 => node fun found mark =>
    match found with
    | .sequenceStart tag | .mappingStart tag => fun _ _ _ =>
      if tag.any Tag.isName then .error (.unplaced (.wrongType "enum" expectation.json))
      else .error (.tooDeep mark)
    | .scalar s =>
      if s.tag.any Tag.isName then fail (.wrongType "enum" expectation.json) else jsonOfScalar s
    | _ => pure .null
  | depth + 1 => node fun found _ =>
    match found with
    | .sequenceStart tag =>
      if tag.any Tag.isName then fail (.wrongType "enum" expectation.json)
      else map Json.array (within fun fuel => items (json depth) fuel 0)
    | .mappingStart tag =>
      if tag.any Tag.isName then fail (.wrongType "enum" expectation.json)
      else
        let key (fields : List (String × Json)) : Reader String :=
          text (if fields.isEmpty then expectation.firstKey else expectation.text)
        let value (k : String) (fields : List (String × Json)) : Reader (List (String × Json)) :=
          map (fun v => Json.insert k v fields) (json depth)
        map Json.object (within fun fuel => entries key value fuel [])
    | .scalar s =>
      if s.tag.any Tag.isName then fail (.wrongType "enum" expectation.json) else jsonOfScalar s
    | _ => pure .null

/-- Read the whole document of a text. -/
def run (reader : Reader α) (source : String) : Except Failure α := do
  let d := Document.ofText source
  let (a, _) ← reader d [] ⟨0, 0⟩
  match d.fault with
  | some error => .error (.syntaxError error)
  | none => if d.followed then .error (.syntaxError .tooManyDocuments) else .ok a

end Reader

end DevicePanel.Yaml
