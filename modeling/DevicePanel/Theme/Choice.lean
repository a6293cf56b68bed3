import DevicePanel.Host.Locations
import DevicePanel.Theme.Palette

/-!
# Choice of a theme

The terminal decides first: without 24-bit color the indexed palette is taken.
With it, the first name that leads to a palette counts: that of the environment,
then the preferred one.
-/

namespace DevicePanel.Palette

/-- What colors a terminal can show. -/
inductive ColorMode where
  | truecolor
  | indexed
  deriving DecidableEq

def ColorMode.ofName? (name : String) : Option ColorMode :=
  let name := name.toLower
  if ["truecolor", "24bit"].contains name then some .truecolor
  else if ["ansi256", "256", "8bit"].contains name then some .indexed
  else none

/-- A word that says yes. -/
def isYes (word : String) : Bool := ["1", "true", "yes", "on"].contains word.toLower

/-- Some end of the list begins with `part`. -/
def occursIn (part : List Char) : List Char → Bool
  | [] => part.isEmpty
  | c :: cs => part.isPrefixOf (c :: cs) || occursIn part cs

/-- The characters of `part` stand together somewhere in the text. -/
def mentions (text part : String) : Bool := occursIn part.toList text.toList

/-- What the terminal is said to show: by name, by force, or by its description. -/
def colorMode (env : Environment) : ColorMode :=
  match ((env "TUI_COLOR_MODE").bind fun name => ColorMode.ofName? (Text.trim name)) with
  | some mode => mode
  | none =>
    let colorTerm := ((env "COLORTERM").getD "").toLower
    let term := ((env "TERM").getD "").toLower
    if (env "TUI_FORCE_TRUECOLOR").any (fun word => isYes (Text.trim word)) ||
        mentions colorTerm "truecolor" || mentions colorTerm "24bit" ||
        mentions term "truecolor" then .truecolor
    else .indexed

/-- The palette for a terminal, where `preferred` is a name. -/
def choose (env : Environment) (preferred : Option String) : Palette :=
  match colorMode env with
  | .indexed => ansi256
  | .truecolor =>
    let named (name : Option String) : Option Palette :=
      name.bind fun name => ofName? (Text.trim name)
    ((named (env "TUI_THEME")) <|> (named preferred)).getD dracula

end DevicePanel.Palette
