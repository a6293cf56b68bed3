import DevicePanel.Sheet.Basic
import DevicePanel.Text.Quoted

/-!
# Fields of a declaration

The fields that a sheet and its parameters are declared with, what can be wrong
with them, and how the fields found in a file are put together.  The readers of
the file formats share these rules.
-/

namespace DevicePanel

/-- What is wrong with the fields of a declaration. -/
inductive FieldError where
  | unknown (name : String) (known : List String)
  | duplicate (name : String)
  | missing (name : String)
  /-- A value of another type; both sides are in words. -/
  | wrongType (found expected : String)
  | wrongValue (found expected : String)
  /-- A list of fields that ends before a field that has to be there. -/
  | tooShort (length : Nat) (expected : String)
  /-- A value that is wrong for its own reason. -/
  | invalid (reason : String)
  deriving DecidableEq

namespace FieldError

def message : FieldError → String
  | .unknown name known =>
    let names := ", ".intercalate (known.map fun n => "`" ++ n ++ "`")
    "unknown field `" ++ name ++ "`, expected one of " ++ names
  | .duplicate name => "duplicate field `" ++ name ++ "`"
  | .missing name => "missing field `" ++ name ++ "`"
  | .wrongType found expected => "invalid type: " ++ found ++ ", expected " ++ expected
  | .wrongValue found expected => "invalid value: " ++ found ++ ", expected " ++ expected
  | .tooShort length expected => s!"invalid length {length}, expected " ++ expected
  | .invalid reason => reason

end FieldError

/-- What the readers ask for, in words. -/
structure Expectation where
  text : String
  flag : String
  list : String
  json : String
  firstKey : String
  fieldName : String

def expectation : Expectation where
  text := "a string"
  flag := "a boolean"
  list := "a sequence"
  json := "any valid JSON value"
  firstKey := "a string key"
  fieldName := "field identifier"

/-- How a text that was found is described. -/
def foundText (s : String) : String := "string " ++ Text.quoted s

/-- How a flag that was found is described. -/
def foundFlag (b : Bool) : String := "boolean `" ++ toString b ++ "`"

/-- How an integer that was found is described. -/
def foundInteger (i : Int) : String :=
  "integer `" ++ String.ofList (Json.Number.integerText i) ++ "`"

/-- A kind of record that is declared field by field: `draft` holds the fields
read so far. -/
structure RecordKind (field draft record : Type) where
  /-- What the record is called in messages. -/
  description : String
  fields : List field
  name : field → String
  required : field → Bool
  empty : draft
  holds : draft → field → Bool
  finish : draft → Except FieldError record

namespace RecordKind

variable {field draft record : Type}

/-- The field with the given name. -/
def field? (kind : RecordKind field draft record) (name : String) : Except FieldError field :=
  match kind.fields.find? fun f => kind.name f == name with
  | some f => .ok f
  | none => .error (.unknown name (kind.fields.map kind.name))

/-- A list of the first `count` fields, which has to go as far as the last required
one. -/
def checkLength (kind : RecordKind field draft record) (count : Nat) : Except FieldError Unit :=
  match (kind.fields.zipIdx.drop count).find? fun (f, _) => kind.required f with
  | some (_, index) =>
    .error (.tooShort index s!"{kind.description} with {kind.fields.length} elements")
  | none => .ok ()

/-- The field with the given name, which must not be there yet. -/
def newField? (kind : RecordKind field draft record) (d : draft) (name : String) :
    Except FieldError field := do
  let f ← kind.field? name
  if kind.holds d f then .error (.duplicate name) else .ok f

end RecordKind

/-! ## Parameters -/

inductive ParameterField where
  | key
  | label
  | format
  | units
  | compact
  | value
  deriving DecidableEq

/-- The fields of a parameter that have been read. -/
structure ParameterDraft where
  key : Option String := none
  label : Option (Option String) := none
  format : Option Format := none
  units : Option (Option String) := none
  compact : Option Bool := none
  value : Option (Option Json) := none

def ParameterField.name : ParameterField → String
  | .key => "key"
  | .label => "label"
  | .format => "format"
  | .units => "units"
  | .compact => "compact"
  | .value => "value"

def ParameterDraft.holds (d : ParameterDraft) : ParameterField → Bool
  | .key => d.key.isSome
  | .label => d.label.isSome
  | .format => d.format.isSome
  | .units => d.units.isSome
  | .compact => d.compact.isSome
  | .value => d.value.isSome

/-- A parameter needs a key and a format. -/
def ParameterDraft.finish (d : ParameterDraft) : Except FieldError ParameterDeclaration :=
  match d.key, d.format with
  | none, _ => .error (.missing "key")
  | _, none => .error (.missing "format")
  | some key, some format => .ok {
      key := key
      label := d.label.getD none
      format := format
      units := d.units.getD none
      compact := d.compact.getD false
      value := d.value.getD none }

def parameterKind : RecordKind ParameterField ParameterDraft ParameterDeclaration where
  description := "struct RawParameter"
  fields := [.key, .label, .format, .units, .compact, .value]
  name := ParameterField.name
  required f := f == .key || f == .format
  empty := {}
  holds := ParameterDraft.holds
  finish := ParameterDraft.finish

/-! ## Sheets -/

inductive SheetField where
  | theme
  | connected
  | parameters
  deriving DecidableEq

/-- The fields of a sheet that have been read. -/
structure SheetDraft where
  theme : Option (Option String) := none
  connected : Option Bool := none
  parameters : Option (List ParameterDeclaration) := none

def SheetField.name : SheetField → String
  | .theme => "theme"
  | .connected => "connected"
  | .parameters => "parameters"

def SheetDraft.holds (d : SheetDraft) : SheetField → Bool
  | .theme => d.theme.isSome
  | .connected => d.connected.isSome
  | .parameters => d.parameters.isSome

/-- A sheet needs no field: without one it is connected and has no parameters. -/
def SheetDraft.finish (d : SheetDraft) : Except FieldError SheetDeclaration :=
  .ok {
    theme := d.theme.getD none
    connected := d.connected.getD true
    parameters := d.parameters.getD [] }

def sheetKind : RecordKind SheetField SheetDraft SheetDeclaration where
  description := "struct RawConfig"
  fields := [.theme, .connected, .parameters]
  name := SheetField.name
  required _ := false
  empty := {}
  holds := SheetDraft.holds
  finish := SheetDraft.finish

end DevicePanel
