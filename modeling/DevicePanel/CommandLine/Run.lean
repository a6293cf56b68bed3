import DevicePanel.App.Basic
import DevicePanel.CommandLine.Failure
import DevicePanel.CommandLine.Help
import DevicePanel.Host.Locations
import DevicePanel.Sheet.Load
import DevicePanel.Sheet.Report
import DevicePanel.Theme.Choice

/-!
# Running the program

What the program writes and how it ends, for a command line and a host.  The
panel writes its log from the start, so that its sheet is read on the host on
which the log has been opened.
-/

namespace DevicePanel

/-- What the program leaves behind. -/
structure Outcome where
  exitCode : UInt8
  stdout : String
  stderr : String
  deriving DecidableEq

namespace Outcome

/-- Lines with their ends. -/
def joinLines (lines : List String) : String :=
  String.join (lines.map (· ++ "\n"))

def success (lines : List String) : Outcome := ⟨0, joinLines lines, ""⟩

def failure (e : Failure) : Outcome := ⟨1, "", joinLines [e.report]⟩

def misuse (e : UsageError) : Outcome := ⟨2, "", joinLines e.lines⟩

/-- The outcome of a command line that asks for no command. -/
def ofStop : Stop → Outcome
  | .help command => success command.helpLines
  | .version => success [versionLine]
  | .misuse e => misuse e

/-- The outcome of a command that writes lines. -/
def ofLines : Except Failure (List String) → Outcome
  | .ok lines => success lines
  | .error e => failure e

end Outcome

namespace Request

/-- The lines of the report on the sheet. -/
def checkLines (host : Host) (path : Option String) : Except Failure (List String) := do
  let sheet ← (Sheet.load host path).mapError .sheet
  .ok sheet.report

/-- The value of a text, as JSON. -/
def parseLine (tag text : String) : Except Failure String := do
  let format ← (Format.ofTag tag).mapError .value
  let value ← (format.parse text).mapError .value
  .ok value.toJson.compact

/-- The panel as it starts.  The theme asked for goes before the one of the sheet. -/
def startPanel (site : Site) (options : PanelOptions) : Except Failure App := do
  let host ← site.logged.mapError (.log site.host.logPath)
  let sheet ← (Sheet.load host options.sheet).mapError .sheet
  let palette := Palette.choose host.environment (options.theme <|> sheet.theme)
  .ok (App.start sheet palette (sheet.connected && !options.offline))

/-- Carry out a request without a terminal. -/
def run (site : Site) : Request → Outcome
  | .panel options =>
    match startPanel site options with
    | .ok _ => .failure .noTerminal
    | .error e => .failure e
  | .check path => .ofLines (checkLines site.host path)
  | .parse format text => .ofLines ((parseLine format text).map ([·]))

end Request

/-- Run the program with the words of a command line. -/
def runProgram (site : Site) (words : List String) : Outcome :=
  match Request.ofArguments words with
  | .ok request => request.run site
  | .error stop => .ofStop stop

end DevicePanel
