import DevicePanel.Yaml.Cursor
import DevicePanel.Yaml.Tag

/-!
# Tokens of YAML

The tokens that a YAML text consists of.  The beginnings and ends of block
collections are tokens of their own, although only the indentation shows them.
-/

namespace DevicePanel.Yaml

/-- How a scalar is written. -/
inductive ScalarStyle where
  | plain
  | singleQuoted
  | doubleQuoted
  | literal
  | folded
  deriving DecidableEq

/-- A token without its place. -/
inductive TokenKind where
  | streamStart
  | streamEnd
  | versionDirective (major minor : Nat)
  | tagDirective (handle : String) (leader : Tag)
  | documentStart
  | documentEnd
  | blockSequenceStart
  | blockMappingStart
  | blockEnd
  | flowSequenceStart
  | flowSequenceEnd
  | flowMappingStart
  | flowMappingEnd
  | blockEntry
  | flowEntry
  | key
  | value
  | «alias» (name : String)
  | anchor (name : String)
  | tag (handle : String) (suffix : Tag)
  | scalar (text : String) (style : ScalarStyle)
  deriving DecidableEq

/-- A token and the places where it begins and ends. -/
structure Token where
  kind : TokenKind
  start : Mark
  stop : Mark

end DevicePanel.Yaml
