/-!
# Colors and styles

A style changes some of the properties of a cell and leaves the others as they
are.
-/

namespace DevicePanel

/-- A color of a terminal. -/
inductive Color where
  /-- The color that the terminal has of itself. -/
  | reset
  | indexed (index : UInt8)
  | rgb (red green blue : UInt8)
  deriving DecidableEq, Inhabited

/-- The ways to emphasize text. -/
structure Emphasis where
  bold : Bool := false
  underlined : Bool := false
  deriving DecidableEq, Inhabited

namespace Emphasis

def none : Emphasis := {}

/-- Emphasize in both ways. -/
def union (a b : Emphasis) : Emphasis where
  bold := a.bold || b.bold
  underlined := a.underlined || b.underlined

end Emphasis

/-- A change of colors and emphasis. -/
structure Style where
  foreground : Option Color := none
  background : Option Color := none
  /-- The emphasis that is added. -/
  emphasis : Emphasis := .none
  deriving DecidableEq, Inhabited

namespace Style

/-- No change. -/
def plain : Style := {}

/-- A change of the foreground only. -/
def ofForeground (c : Color) : Style := { foreground := some c }

/-- Colors for text that fills its background. -/
def filled (foreground background : Color) : Style :=
  { foreground := some foreground, background := some background }

def bold (s : Style) : Style := { s with emphasis := s.emphasis.union { bold := true } }

def underlined (s : Style) : Style :=
  { s with emphasis := s.emphasis.union { underlined := true } }

end Style

end DevicePanel
