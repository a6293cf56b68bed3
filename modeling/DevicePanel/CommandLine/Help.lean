import DevicePanel.CommandLine.Arguments

/-!
# Help texts

What the program says of itself and of its commands.
-/

namespace DevicePanel

/-- The name and the version of the program. -/
def versionLine : String := "knobs 0.1.0"

/-- One line for each option, with the names in a column of the given width. -/
def Command.optionLines (command : Command) (width : Nat) : List String :=
  let line (names what : String) : String :=
    "  " ++ names ++ String.ofList (List.replicate (width - names.length) ' ') ++ "  " ++ what
  let settings := command.settings.map fun
    | .sheet =>
      line "    --config <CONFIG>" "Parameter sheet (YAML or JSON); overrides KNOBS_CONFIG"
    | .theme => line "    --theme <THEME>" "Theme id or alias, e.g. `nord`"
    | .format => line "    --format <FORMAT>" "number, number+units, bool, string or json"
  let flags := command.flags.map fun
    | .offline => line "    --offline" "Start with the link down"
    | .help => line "-h, --help" "Print help"
    | .version => line "-V, --version" "Print version"
  settings ++ flags

namespace Command

/-- What a command does. -/
def summary : Command → String
  | .panel => "Edit device parameters from the terminal"
  | .check => "Validate the parameter sheet and list its parameters"
  | .parse => "Parse TEXT the way an editor does on confirm and print the JSON value"
  | .help => "Print this message or the help of the given subcommand(s)"

/-- How a command is called. -/
def usage : Command → String
  | .panel => "Usage: knobs [OPTIONS] [COMMAND]"
  | .check => "Usage: knobs check [OPTIONS]"
  | .parse => "Usage: knobs parse [OPTIONS] --format <FORMAT> <TEXT>"
  | .help => "Usage: knobs help [COMMAND]..."

/-- The lines that explain the words behind a command. -/
def argumentLines : Command → List String
  | .panel => ["Commands:", "  check  " ++ check.summary, "  parse  " ++ parse.summary,
      "  help   " ++ help.summary, ""]
  | .check => []
  | .parse => ["Arguments:", "  <TEXT>  ", ""]
  | .help => ["Arguments:", "  [COMMAND]...  Print help for the subcommand(s)"]

/-- The help text of a command. -/
def helpLines (command : Command) : List String :=
  let options := match command with
    | .panel | .check | .parse => "Options:" :: command.optionLines 21
    | .help => []
  [command.summary, "", command.usage, ""] ++ command.argumentLines ++ options

end Command

/-- What is said after a mistake in a command line. -/
def UsageError.lines (e : UsageError) : List String :=
  ["error: " ++ e.message, "", Command.panel.usage, "", "For more information, try '--help'."]

end DevicePanel
