import DevicePanel.Host.Basic
import DevicePanel.Value.Commit

/-!
# Parameter sheets

A sheet lists the parameters that a panel edits.  It is declared in a file; a
declaration becomes a sheet when every parameter has a key of its own and a value
of its format.
-/

namespace DevicePanel

/-- A parameter of a sheet. -/
structure Parameter where
  key : String
  label : String
  format : Format
  units : Option String
  compact : Bool
  /-- The committed value, if one is known. -/
  value : Option Value

namespace Parameter

/-- Units are only shown with formats that have them. -/
def shownUnits (p : Parameter) : Option String :=
  p.units.filter fun _ => p.format.hasUnits

end Parameter

/-- A value as it is shown in lists: followed by its units, or unset. -/
def currentText (value : Option Value) (units : Option String) : String :=
  match value, units with
  | some value, some units => value.display ++ " " ++ units
  | some value, none => value.display
  | none, _ => "unset"

/-- Where a sheet comes from. -/
inductive Source where
  | file (path : String)
  | builtIn
  deriving DecidableEq

/-- A parameter sheet. -/
structure Sheet where
  source : Source
  /-- The preferred theme. -/
  theme : Option String
  /-- Whether the link is up at the start. -/
  connected : Bool
  parameters : List Parameter

/-- A parameter as a file declares it. -/
structure ParameterDeclaration where
  key : String
  label : Option String
  format : Format
  units : Option String
  compact : Bool
  value : Option Json

/-- A sheet as a file declares it. -/
structure SheetDeclaration where
  theme : Option String
  connected : Bool
  parameters : List ParameterDeclaration

/-- Why there is no sheet. -/
inductive SheetError where
  | unreadable (path : String) (cause : FileError)
  /-- The file is no YAML declaration; `cause` says why. -/
  | badYaml (path cause : String)
  /-- The file is no JSON declaration; `cause` says why. -/
  | badJson (path cause : String)
  | emptyKey (index : Nat)
  | duplicateKey (key : String)
  | invalidValue (key : String) (cause : ValueError)
  deriving DecidableEq

namespace SheetError

/-- The message of the error below this one. -/
def cause? : SheetError → Option String
  | .unreadable _ cause => some cause.message
  | .badYaml _ cause => some cause
  | .badJson _ cause => some cause
  | .invalidValue _ cause => some cause.message
  | _ => none

def message : SheetError → String
  | .unreadable path cause => "failed to read " ++ path ++ ": " ++ cause.message
  | .badYaml path cause => "invalid YAML in " ++ path ++ ": " ++ cause
  | .badJson path cause => "invalid JSON in " ++ path ++ ": " ++ cause
  | .emptyKey index => s!"parameter #{index} has an empty key"
  | .duplicateKey key => "parameter '" ++ key ++ "' is declared more than once"
  | .invalidValue key cause => "parameter '" ++ key ++ "': " ++ cause.message

end SheetError

namespace ParameterDeclaration

/-- The parameter of a declaration with the given index, after the parameters
with the keys `taken`.  The label falls back to the key. -/
def check (d : ParameterDeclaration) (index : Nat) (taken : List String) :
    Except SheetError Parameter :=
  let key := Text.trim d.key
  if key.isEmpty then .error (.emptyKey index)
  else if taken.contains key then .error (.duplicateKey key)
  else do
    let value ← match d.value with
      | none => .ok none
      | some v =>
        match d.format.check v with
        | .ok value => .ok (some value)
        | .error cause => .error (.invalidValue key cause)
    .ok {
      key := key
      label := d.label.getD key
      format := d.format
      units := d.units
      compact := d.compact
      value := value }

/-- The parameters of declarations, of which the first has the given index.  The
first declaration with a fault decides the error. -/
def checkAll : List ParameterDeclaration → Nat → List String → Except SheetError (List Parameter)
  | [], _, _ => .ok []
  | d :: rest, index, taken => do
    let parameter ← d.check index taken
    let parameters ← checkAll rest (index + 1) (taken ++ [parameter.key])
    .ok (parameter :: parameters)

end ParameterDeclaration

namespace Sheet

/-- The sheet of a declaration. -/
def ofDeclaration (source : Source) (d : SheetDeclaration) : Except SheetError Sheet := do
  let parameters ← ParameterDeclaration.checkAll d.parameters 0 []
  .ok { source, theme := d.theme, connected := d.connected, parameters }

/-- The sheet that is used when no file is there. -/
def builtIn : Sheet where
  source := .builtIn
  theme := none
  connected := true
  parameters := [
    ⟨"device_name", "Device name", .text, none, false, some (.text "bench-01")⟩,
    ⟨"sample_rate", "Sample rate", .numberWithUnits, some "Hz", false,
      some (.number (.ofNat 44100 (by decide)))⟩,
    ⟨"buffer_frames", "Buffer frames", .number, none, false,
      some (.number (.ofNat 256 (by decide)))⟩,
    ⟨"muted", "Muted", .bool, none, false, some (.bool false)⟩,
    ⟨"routing", "Routing", .json, none, false, none⟩]

end Sheet

end DevicePanel
