import DevicePanel.CommandLine.Run

/-!
# The program

Looks at the machine, runs the program on it and writes what it leaves behind.
-/

namespace DevicePanel

/-- Why a file operation failed. -/
def FileError.ofSystem : IO.Error → FileError
  | .noFileOrDirectory .. => .notFound
  | .inappropriateType _ 20 _ => .notDirectory
  | .inappropriateType _ 21 _ => .isDirectory
  | .permissionDenied _ code details => .other s!"{details} (os error {code})"
  | e => .other (toString e)

/-- The text of a file. -/
def readFileText (path : String) : IO (Except FileError String) := do
  try
    let bytes ← IO.FS.readBinFile path
    match String.fromUTF8? bytes with
    | some text => return .ok text
    | none => return .error .notText
  catch e => return .error (.ofSystem e)

/-- Open a file for appending, and make it if it is missing. -/
def openLog (path : String) : IO (Except FileError Unit) := do
  try
    let _ ← IO.FS.Handle.mk path .append
    return .ok ()
  catch e => return .error (.ofSystem e)

/-- The variables on which the program depends. -/
def variableNames : List String :=
  ["HOME", "XDG_CONFIG_HOME", "TMPDIR", Host.sheetVariable, Host.logVariable, "COLORTERM", "TERM",
    "TUI_COLOR_MODE", "TUI_FORCE_TRUECOLOR", "TUI_THEME"]

/-- The values of these variables. -/
def readEnvironment : IO Environment := do
  let values ← variableNames.mapM fun name => return (name, ← IO.getEnv name)
  return fun name => (values.find? fun (n, _) => n == name).bind (·.2)

/-- The machine with the one file that a request reads. -/
def readHost (environment : Environment) (path : String) : IO Host := do
  let content ← readFileText path
  return {
    environment
    accountHome := none
    readText := fun p => if p == path then content else .error .notFound }

/-- The machine as a request finds it.  Only the panel opens the log. -/
def readSite (request : Request) : IO Site := do
  let environment ← readEnvironment
  let bare : Host := ⟨environment, none, fun _ => .error .notFound⟩
  match request with
  | .panel options =>
    match ← openLog bare.logPath with
    | .error e => return ⟨bare, .error e⟩
    | .ok () => return ⟨bare, .ok (← readHost environment (Sheet.placeOf bare options.sheet))⟩
  | .check path =>
    let host ← readHost environment (Sheet.placeOf bare path)
    return ⟨host, .ok host⟩
  | .parse .. => return ⟨bare, .ok bare⟩

end DevicePanel

open DevicePanel

def main (words : List String) : IO UInt32 := do
  let outcome ←
    match Request.ofArguments words with
    | .ok request => do pure (request.run (← readSite request))
    | .error stop => pure (.ofStop stop)
  (← IO.getStdout).putStr outcome.stdout
  (← IO.getStderr).putStr outcome.stderr
  return outcome.exitCode.toUInt32
