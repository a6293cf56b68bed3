import DevicePanel.Yaml.Reader

/-!
# Sheets declared in YAML

Reads the declaration of a sheet from YAML text.  Records are mappings; a missing
or empty one has no fields.
-/

namespace DevicePanel.SheetDeclaration

open Yaml (Reader)

namespace YamlReader

def text : Reader String := Reader.text expectation.text

/-- The tag of a format.  A bad one is a fault of the record around it. -/
def format : Reader Format := fun d path p => do
  let (tag, p) ← text d path p
  match Format.ofTag tag with
  | .ok f => .ok (f, p)
  | .error e => .error (.unplaced (.invalid e.message))

/-- How deep a parameter's value may be nested inside a sheet. -/
def valueDepth : Nat := Reader.maxDepth - 3

def parameterField (f : ParameterField) (d : ParameterDraft) : Reader ParameterDraft :=
  match f with
  | .key => text.map fun v => { d with key := some v }
  | .label => (Reader.optional text).map fun v => { d with label := some v }
  | .format => format.map fun v => { d with format := some v }
  | .units => (Reader.optional text).map fun v => { d with units := some v }
  | .compact => Reader.flag.map fun v => { d with compact := some v }
  | .value => (Reader.optional (.json valueDepth)).map fun v => { d with value := some v }

def sheetField (f : SheetField) (d : SheetDraft) : Reader SheetDraft :=
  match f with
  | .theme => (Reader.optional text).map fun v => { d with theme := some v }
  | .connected => Reader.flag.map fun v => { d with connected := some v }
  | .parameters =>
    (Reader.list (.record parameterKind parameterField)).map fun v =>
      { d with parameters := some v }

end YamlReader

/-- The declaration in a YAML text, or the message of its first fault. -/
def ofYamlText (source : String) : Except String SheetDeclaration :=
  ((Reader.record sheetKind YamlReader.sheetField).run source).mapError Yaml.Failure.message

end DevicePanel.SheetDeclaration
