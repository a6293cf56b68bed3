/-!
# Command lines

The words behind the program's name ask for one of its commands.  Options may
stand in any order; the options of the panel stand before the name of another
command and the options of that command behind it.  Only the sheet can be chosen
at both places, and then the choice behind the name counts.
-/

namespace DevicePanel

/-- What the program can do. -/
inductive Command where
  /-- Start the panel, which has no name on the command line. -/
  | panel
  /-- List the parameters of the sheet. -/
  | check
  /-- Read a text as a value of a format. -/
  | parse
  /-- Explain a command. -/
  | help
  deriving DecidableEq, Repr

/-- An option with a value. -/
inductive Setting where
  | sheet
  | theme
  | format
  deriving DecidableEq, Repr

/-- An option without a value. -/
inductive Flag where
  | offline
  | help
  | version
  deriving DecidableEq, Repr

namespace Setting

def all : List Setting := [sheet, theme, format]

/-- The name behind two hyphens. -/
def name : Setting → String
  | .sheet => "config"
  | .theme => "theme"
  | .format => "format"

/-- A sheet has to be named; other values may be empty. -/
def admits (setting : Setting) (value : String) : Bool :=
  setting != .sheet || !value.isEmpty

end Setting

namespace Flag

def all : List Flag := [offline, help, version]

/-- The name behind two hyphens. -/
def name : Flag → String
  | .offline => "offline"
  | .help => "help"
  | .version => "version"

/-- The letter behind a single hyphen. -/
def letter? : Flag → Option Char
  | .offline => none
  | .help => some 'h'
  | .version => some 'V'

end Flag

namespace Command

/-- The command with the given name. -/
def ofName? : String → Option Command
  | "check" => some .check
  | "parse" => some .parse
  | "help" => some .help
  | _ => none

def settings : Command → List Setting
  | .panel => [.sheet, .theme]
  | .check => [.sheet]
  | .parse => [.sheet, .format]
  | .help => []

def flags : Command → List Flag
  | .panel => [.offline, .help, .version]
  | .check | .parse => [.help]
  | .help => []

/-- The setting of a command with the given name. -/
def setting? (command : Command) (name : String) : Option Setting :=
  command.settings.find? fun s => s.name == name

/-- The flag of a command with the given name. -/
def flag? (command : Command) (name : String) : Option Flag :=
  command.flags.find? fun f => f.name == name

/-- The flag of a command with the given letter. -/
def flagOfLetter? (command : Command) (letter : Char) : Option Flag :=
  command.flags.find? fun f => f.letter? == some letter

end Command

/-- How a word looks. -/
inductive Word where
  /-- Two hyphens alone; no word behind them is an option. -/
  | separator
  /-- A name behind two hyphens, and the value behind an equals sign. -/
  | long (name : String) (value : Option String)
  /-- Letters behind a single hyphen. -/
  | short (letters : List Char)
  | plain
  deriving DecidableEq

namespace Word

/-- Take a name apart at its first equals sign. -/
def longOf (cs : List Char) : Word :=
  let name := String.ofList (cs.takeWhile (· != '='))
  match cs.dropWhile (· != '=') with
  | [] => .long name none
  | _ :: value => .long name (some (String.ofList value))

def ofString (s : String) : Word :=
  match s.toList with
  | ['-', '-'] => .separator
  | '-' :: '-' :: cs => longOf cs
  | ['-'] => .plain
  | '-' :: letters => .short letters
  | _ => .plain

end Word

/-- Why a command line asks for nothing. -/
inductive UsageError where
  /-- No option and no argument of the command. -/
  | unexpected (word : String)
  /-- No command has this name. -/
  | unknownCommand (name : String)
  | missingValue (setting : Setting)
  /-- The flag takes no value. -/
  | needlessValue (flag : Flag) (value : String)
  /-- The option, whose name is given, may be there only once. -/
  | repeated (option : String)
  /-- The command needs the setting. -/
  | missingSetting (setting : Setting)
  /-- The command needs a text. -/
  | missingText
  deriving DecidableEq

namespace UsageError

def message : UsageError → String
  | .unexpected word => "unexpected argument '" ++ word ++ "' found"
  | .unknownCommand name => "unrecognized subcommand '" ++ name ++ "'"
  | .missingValue setting =>
    "a value is required for '--" ++ setting.name ++ "' but none was supplied"
  | .needlessValue flag value =>
    "unexpected value '" ++ value ++ "' for '--" ++ flag.name ++ "' found; no more were expected"
  | .repeated option => "the argument '--" ++ option ++ "' cannot be used multiple times"
  | .missingSetting setting => "the option '--" ++ setting.name ++ "' was not provided"
  | .missingText => "the argument '<TEXT>' was not provided"

end UsageError

/-- What ends the reading of a command line at once. -/
inductive Stop where
  | help (command : Command)
  | version
  | misuse (cause : UsageError)
  deriving DecidableEq

/-- What the words read so far have given to a command. -/
structure Given where
  settings : List (Setting × String) := []
  flags : List Flag := []
  text : Option String := none
  /-- The setting that waits for its value. -/
  pending : Option Setting := none

namespace Given

def value? (given : Given) (setting : Setting) : Option String :=
  (given.settings.find? fun (s, _) => s == setting).map (·.2)

/-- No setting waits for a value. -/
def settled (given : Given) : Except Stop Given :=
  match given.pending with
  | some setting => .error (.misuse (.missingValue setting))
  | none => .ok given

/-- Give a setting its value. -/
def set (given : Given) (setting : Setting) (value : String) : Except Stop Given :=
  if (given.value? setting).isSome then .error (.misuse (.repeated setting.name))
  else if !setting.admits value then .error (.misuse (.missingValue setting))
  else .ok { given with settings := (setting, value) :: given.settings, pending := none }

/-- Raise a flag.  Help and the version are shown at once. -/
def raise (given : Given) (command : Command) (flag : Flag) : Except Stop Given := do
  let given ← given.settled
  match flag with
  | .help => .error (.help command)
  | .version => .error .version
  | .offline =>
    if given.flags.contains flag then .error (.misuse (.repeated flag.name))
    else .ok { given with flags := flag :: given.flags }

/-- The next word may be the text of the command, even if it looks like an option. -/
def awaitsText (given : Given) (command : Command) : Bool :=
  command == .parse && given.text.isNone

/-- Take a word as the text of the command. -/
def takeText (given : Given) (command : Command) (word : String) : Except Stop Given := do
  let given ← given.settled
  if given.awaitsText command then .ok { given with text := some word }
  else .error (.misuse (.unexpected word))

/-- Take a word as the value that is waited for, or else as the text. -/
def takeWord (given : Given) (command : Command) (word : String) : Except Stop Given :=
  match given.pending with
  | some setting => given.set setting word
  | none => given.takeText command word

/-- Read an option with two hyphens.  A command that waits for its text takes an
option that it does not have as a word. -/
def takeLong (given : Given) (command : Command) (word name : String) (value : Option String) :
    Except Stop Given :=
  match command.setting? name, command.flag? name with
  | some setting, _ => do
    let given ← given.settled
    match value with
    | some value => given.set setting value
    | none => .ok { given with pending := some setting }
  | none, some flag =>
    match value with
    | some value => .error (.misuse (.needlessValue flag value))
    | none => given.raise command flag
  | none, none =>
    if given.awaitsText command then given.takeWord command word
    else .error (.misuse (.unexpected word))

/-- Read letters behind a hyphen.  A command that waits for its text takes them as
a word if it does not have all of them. -/
def takeShort (given : Given) (command : Command) (word : String) (letters : List Char) :
    Except Stop Given :=
  if given.awaitsText command && letters.any fun c => (command.flagOfLetter? c).isNone then
    given.takeWord command word
  else
    letters.foldlM (fun given c =>
      match command.flagOfLetter? c with
      | some flag => given.raise command flag
      | none => .error (.misuse (.unexpected word))) given

/-- Read the words behind two hyphens. -/
def readTexts (given : Given) (command : Command) (words : List String) : Except Stop Given :=
  words.foldlM (fun given word => given.takeText command word) given

/-- The command that a word names, where the name of a command can stand. -/
def nextCommand? (given : Given) (command : Command) (word : String) : Option Command :=
  if command == .panel && given.pending.isNone then Command.ofName? word else none

/-- Read the words of a command up to the name of another command, which is returned
with the words behind it. -/
def read (command : Command) (given : Given) :
    List String → Except Stop (Given × Option (Command × List String))
  | [] => do
    let given ← given.settled
    .ok (given, none)
  | word :: rest =>
    match given.nextCommand? command word with
    | some next => .ok (given, some (next, rest))
    | none =>
      match Word.ofString word with
      | .separator => do
        let given ← given.readTexts command rest
        let given ← given.settled
        .ok (given, none)
      | .long name value => do
        let given ← given.takeLong command word name value
        given.read command rest
      | .short letters => do
        let given ← given.takeShort command word letters
        given.read command rest
      | .plain => do
        let given ← given.takeWord command word
        given.read command rest

end Given

/-- What the panel is started with. -/
structure PanelOptions where
  /-- Where the sheet is. -/
  sheet : Option String
  /-- The preferred theme. -/
  theme : Option String
  /-- The link is down at the start. -/
  offline : Bool
  deriving DecidableEq

/-- What a command line asks for. -/
inductive Request where
  | panel (options : PanelOptions)
  | check (sheet : Option String)
  | parse (format text : String)
  deriving DecidableEq

namespace Request

/-- What is asked for by what has been given to the panel. -/
def ofPanel (given : Given) : Request :=
  .panel ⟨given.value? .sheet, given.value? .theme, given.flags.contains .offline⟩

/-- What is asked for by what has been given to the command that reads a text. -/
def ofParse (given : Given) : Except Stop Request :=
  match given.value? .format, given.text with
  | none, _ => .error (.misuse (.missingSetting .format))
  | some _, none => .error (.misuse .missingText)
  | some format, some text => .ok (.parse format text)

/-- The command that the words behind the name of the help command lead to. -/
def helpTopic : List String → Stop
  | [] => .help .panel
  | name :: rest =>
    match Command.ofName? name, rest with
    | none, _ => .misuse (.unknownCommand name)
    | some command, [] => .help command
    | some _, next :: _ => .misuse (.unknownCommand next)

/-- What the words of a command line ask for. -/
def ofArguments (words : List String) : Except Stop Request := do
  let (given, next) ← Given.read .panel {} words
  match next with
  | none => .ok (ofPanel given)
  | some (.check, rest) =>
    let (inner, _) ← Given.read .check {} rest
    .ok (.check (inner.value? .sheet <|> given.value? .sheet))
  | some (.parse, rest) =>
    let (inner, _) ← Given.read .parse {} rest
    ofParse inner
  | some (.help, rest) => .error (helpTopic rest)
  | some (.panel, _) => .ok (ofPanel given)

end Request

end DevicePanel
