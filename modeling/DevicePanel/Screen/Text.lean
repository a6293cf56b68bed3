import DevicePanel.Screen.Canvas
import DevicePanel.Text.Cluster

/-!
# Text on canvases

Lines of styled text and the two ways to put them on a canvas.  A paragraph line
leaves out what does not fit and all symbols without a width.  A label is written
span by span; symbols without a width join the symbol before them.
-/

namespace DevicePanel

/-- A text in one style. -/
structure Span where
  text : String
  style : Style := .plain
  deriving DecidableEq

/-- A symbol of a text with its columns and its style. -/
structure Glyph where
  symbol : String
  columns : Nat
  style : Style

namespace Glyph

def ofCluster (style : Style) (cluster : List Char) : Glyph :=
  ⟨String.ofList cluster, Text.symbolWidth cluster, style⟩

end Glyph

namespace Span

/-- The columns of the text; a control counts as one. -/
def width (s : Span) : Nat := Text.width s.text.toList

/-- The symbols of the text.  Controls have none. -/
def glyphs (s : Span) : List Glyph :=
  let shown := (Text.clusters s.text.toList).filter fun cluster => !cluster.any Text.isControl
  shown.map (.ofCluster s.style)

end Span

/-- A line of text. -/
abbrev Line := List Span

namespace Line

def glyphs (line : Line) : List Glyph := line.flatMap Span.glyphs

/-- The symbols that fit into a width: those up to the first that would go beyond
it, without those that are wider by themselves. -/
def fit (width : Nat) : Nat → List Glyph → List Glyph
  | _, [] => []
  | used, g :: rest =>
    if width < g.columns then fit width used rest
    else if width < used + g.columns then []
    else g :: fit width (used + g.columns) rest

/-- The columns that symbols take. -/
def columns (glyphs : List Glyph) : Nat :=
  glyphs.foldr (fun g n => g.columns + n) 0

/-- The symbols with the columns that they begin at, the first at column `x`. -/
def place (x : Nat) : List Glyph → List (Nat × Glyph)
  | [] => []
  | g :: rest =>
    if g.columns == 0 then place x rest else (x, g) :: place (x + g.columns) rest

end Line

/-- Where a line stands in its area. -/
inductive Alignment where
  | left
  | center
  deriving DecidableEq

/-- The column of a line of `length` columns in an area of `width` columns. -/
def Alignment.offset (a : Alignment) (width length : Nat) : Nat :=
  match a with
  | .left => 0
  | .center => width / 2 - length / 2

namespace Canvas

/-! ## Paragraphs -/

/-- Write a symbol into a cell. -/
def write (c : Canvas) (x y : Nat) (g : Glyph) : Canvas :=
  c.modify x y fun cell => (cell.withSymbol g.symbol).styled g.style

/-- Write a line of a paragraph into row `y` of an area. -/
def writeLine (c : Canvas) (area : Rect) (y : Nat) (alignment : Alignment) (line : Line) :
    Canvas :=
  let glyphs := Line.fit area.width 0 line.glyphs
  let length := Line.columns glyphs
  let placed := Line.place (area.x + alignment.offset area.width length) glyphs
  placed.foldl (fun c (x, g) => c.write x y g) c

/-- Write lines into the rows of an area from row `y` on. -/
def writeLines (c : Canvas) (area : Rect) (alignment : Alignment) : Nat → List Line → Canvas
  | _, [] => c
  | y, line :: rest =>
    if y < area.bottom then
      writeLines (c.writeLine area y alignment line) area alignment (y + 1) rest
    else c

/-- Draw a paragraph into an area. -/
def paragraph (c : Canvas) (area : Rect) (lines : List Line) (alignment : Alignment := .left) :
    Canvas :=
  let area := area.clip c.width c.height
  c.writeLines area alignment area.y lines

/-! ## Labels -/

/-- Empty the cells that a symbol at column `x` hides. -/
def hide (c : Canvas) (x y : Nat) (g : Glyph) : Canvas :=
  c.modifyRow (x + 1) y (fun _ => .blank) (g.columns - 1)

/-- Add a symbol to the one in a cell. -/
def join (c : Canvas) (x y : Nat) (g : Glyph) : Canvas :=
  c.modify x y fun cell => (cell.append g.symbol).styled g.style

/-- Write the symbols of a span that follow its first one from column `x` on, up to
the column `stop`; the span begins at the column `start`. -/
def writeFollowing (c : Canvas) (y start stop : Nat) : Nat → List Glyph → Canvas
  | _, [] => c
  | x, g :: rest =>
    if stop < x + g.columns then c
    else
      let c :=
        if x == start then c.join x y g
        else if g.columns == 0 then c.join (x - 1) y g
        else c.write x y g
      writeFollowing (c.hide x y g) y start stop (x + g.columns) rest

/-- Write a span into the first row of an area. -/
def writeSpan (c : Canvas) (area : Rect) (s : Span) : Canvas :=
  match s.glyphs with
  | [] => c
  | g :: rest =>
    if area.right < area.x + g.columns then c
    else
      let c := (c.write area.x area.y g).hide area.x area.y g
      c.writeFollowing area.y area.x area.right (area.x + g.columns) rest

/-- Write spans one after the other into the first row of an area. -/
def writeSpans (c : Canvas) (area : Rect) : List Span → Canvas
  | [] => c
  | s :: rest =>
    if area.isEmpty then c
    else if s.width == 0 then writeSpans c area rest
    else writeSpans (c.writeSpan area s) (area.dropColumns s.width) rest

/-- Write a label into the first row of an area. -/
def label (c : Canvas) (area : Rect) (line : Line) : Canvas :=
  c.writeSpans (area.clip c.width c.height) line

end Canvas

end DevicePanel
