import DevicePanel.Host.Locations
import DevicePanel.Sheet.FromJson
import DevicePanel.Sheet.FromYaml

/-!
# Loading sheets

Where a sheet is looked for: at a path that is asked for, else where the
environment says, else at the default place.  Only there may it be missing; the
built-in sheet takes its place.
-/

namespace DevicePanel.Sheet

/-- How sheets that are given as a text are called in messages. -/
def inlinePath : String := "<inline>"

/-- The file at a path is JSON; all others are YAML. -/
def isJsonPath (path : String) : Bool :=
  (Path.extension? path).any fun e => e.toLower == "json"

/-- The sheet in a YAML text. -/
def ofYamlText (source : String) : Except SheetError Sheet := do
  let d ← (SheetDeclaration.ofYamlText source).mapError (.badYaml inlinePath)
  ofDeclaration .builtIn d

/-- The sheet in the file at a path. -/
def ofFile (host : Host) (path : String) : Except SheetError Sheet := do
  let source ← (host.readText path).mapError (.unreadable path)
  let d ←
    if isJsonPath path then (SheetDeclaration.ofJsonText source).mapError (.badJson path)
    else (SheetDeclaration.ofYamlText source).mapError (.badYaml path)
  ofDeclaration (.file path) d

/-- The sheet at the default place, or the built-in one if there is no file. -/
def ofDefault (host : Host) : Except SheetError Sheet :=
  match ofFile host host.defaultSheetPath with
  | .error (.unreadable _ .notFound) => .ok builtIn
  | result => result

/-- The place of the sheet, if one is asked for or the environment names one. -/
def namedPath? (host : Host) (path : Option String) : Option String :=
  (path <|> host.setting? Host.sheetVariable).map host.expand

/-- The sheet that the program works with; `path` is the one asked for. -/
def load (host : Host) (path : Option String) : Except SheetError Sheet :=
  match namedPath? host path with
  | some path => ofFile host path
  | none => ofDefault host

/-- The only file that `load` reads. -/
def placeOf (host : Host) (path : Option String) : String :=
  (namedPath? host path).getD host.defaultSheetPath

end DevicePanel.Sheet
