import DevicePanel.Host.Basic
import DevicePanel.Path

/-!
# Where the program keeps its files

The home and configuration directories, and the places of the parameter sheet
and of the log that follow from them and from the environment.
-/

namespace DevicePanel.Host

/-- The variable that names the sheet. -/
def sheetVariable : String := "KNOBS_CONFIG"

/-- The variable that names the log. -/
def logVariable : String := "KNOBS_LOG_FILE"

/-- The value of a variable, unless it is blank. -/
def setting? (host : Host) (name : String) : Option String :=
  (host.environment name).filter fun value => !(Text.trim value).isEmpty

/-- The user's home directory. -/
def home? (host : Host) : Option String :=
  match (host.environment "HOME").filter (!·.isEmpty) with
  | some home => some home
  | none => host.accountHome

/-- The directory for configuration files: the one that the environment names, if
its path is absolute, or else a directory in the home directory. -/
def configDirectory? (host : Host) : Option String :=
  match (host.environment "XDG_CONFIG_HOME").filter Path.isAbsolute with
  | some directory => some directory
  | none => host.home?.map fun home => Path.join home ".config"

/-- Where the sheet is looked for when no other place is given. -/
def defaultSheetPath (host : Host) : String :=
  Path.join (Path.join (host.configDirectory?.getD ".") "knobs") "knobs.yaml"

/-- A path with its tilde replaced. -/
def expand (host : Host) (path : String) : String :=
  Path.expandHome host.home? path

/-- The directory for temporary files. -/
def temporaryDirectory (host : Host) : String :=
  (host.environment "TMPDIR").getD "/tmp"

/-- Where the log is written. -/
def logPath (host : Host) : String :=
  match host.setting? logVariable with
  | some path => host.expand path
  | none => Path.join host.temporaryDirectory "knobs.log"

end DevicePanel.Host
