import DevicePanel.App.Basic
import DevicePanel.Panel.Draw

/-!
# Drawing the application

A header, the panel, the latest commit and a line of hints, from the top to the
bottom.  Where there are few rows the panel keeps six of them, and the header comes
before the commit before the hints.
-/

namespace DevicePanel.App

/-! ## Layout -/

/-- The areas of the parts of the application. -/
structure Layout where
  header : Rect
  panel : Rect
  status : Rect
  hints : Rect

/-- The fewest rows that the panel leaves to other parts. -/
def panelRows : Nat := 6

def Layout.ofArea (area : Rect) : Layout :=
  let header := min 1 (area.height - panelRows)
  let status := min 1 (area.height - panelRows - 1)
  let hints := min 1 (area.height - panelRows - 2)
  let panel := area.height - header - status - hints
  { header := { area with height := header }
    panel := { area with y := area.y + header, height := panel }
    status := { area with y := area.y + header + panel, height := status }
    hints := { area with y := area.y + header + panel + status, height := hints } }

/-! ## Lines -/

def sourceText : Source → String
  | .file path => path
  | .builtIn => "demo sheet"

def titleLine (app : App) : Line :=
  let t := app.theme
  [⟨"knobs", t.accentStyle⟩,
    ⟨"  " ++ sourceText app.source, t.mutedStyle⟩,
    ⟨"  theme: " ++ app.palette.id, t.mutedStyle⟩]

def badge (connected : Bool) : String := if connected then " online " else " offline "

def statusLine (app : App) : Line :=
  let t := app.theme
  match app.lastCommit? with
  | some latest =>
    [⟨latest.time.text, t.mutedStyle⟩,
      ⟨"  " ++ latest.commit.key ++ " = ", t.secondaryStyle⟩,
      ⟨latest.commit.value.display, t.successStyle⟩,
      ⟨s!"  ({app.history.length} in history)", t.mutedStyle⟩]
  | none => [⟨"No commits yet", t.mutedStyle⟩]

def hintLine (app : App) : Line :=
  app.panel.hints app.theme app.connected ++
    app.theme.hints [("Ctrl+L", " Link  "), ("Ctrl+Q", " Quit")]

/-! ## Frames -/

def drawHeader (app : App) (c : Canvas) (area : Rect) : Canvas :=
  let text := badge app.connected
  let badgeWidth := min text.length area.width
  let titleWidth := area.width - badgeWidth
  let c := c.paragraph { area with width := titleWidth } [app.titleLine]
  c.paragraph { area with x := area.x + titleWidth, width := badgeWidth }
    [[⟨text, app.theme.badgeStyle app.connected⟩]]

/-- The application before a frame is drawn: a control that is gone has lost the
focus, and the list has it when no other control does. -/
def settle (app : App) : App :=
  let panel := app.panel.rebuildFocus
  { app with panel := if panel.focus.current.isNone then panel.moveFocus .list else panel }

/-- Draw the application on a blank screen: the application afterwards and the
screen. -/
def draw (app : App) (width height : Nat) : App × Screen :=
  let c := Canvas.blank width height
  let l := Layout.ofArea c.area
  let c := c.style c.area app.theme.surfaceStyle
  let c := app.drawHeader c l.header
  let (panel, screen) := app.panel.draw c l.panel app.theme app.connected
  let app := { app with panel }
  let c := screen.canvas.paragraph l.status [app.statusLine]
  (app, { screen with canvas := c.paragraph l.hints [app.hintLine] })

/-- A frame: the application afterwards and the screen. -/
def frame (app : App) (width height : Nat) : App × Screen := app.settle.draw width height

end DevicePanel.App
