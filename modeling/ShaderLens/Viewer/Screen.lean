import ShaderLens.Line.Display
import ShaderLens.Viewer.Heading

/-!
# The screen

A screen shows the two panes side by side, the vertex pane at the left with the odd column, and a
row of hints below them where there is room for more than one row. Each pane has a border with a
heading and shows the display lines of its shader from the scroll position on.
-/

namespace ShaderLens

structure Size where
  width : Nat
  height : Nat
  deriving DecidableEq, Repr

namespace Screen

variable {Hue : Type}

/-- The row of hints. -/
def hint : Text :=
  " q quit  Tab switch pane  j/k scroll  PgUp/PgDn page  g/G top/bottom ".toList

/-- The farthest line that a pane can be drawn from. -/
def offsetLimit : Nat := 65535

/-- A row that the border of a pane encloses. Without room for both ends the left one stays. -/
def enclose (width : Nat) (left : Cell Hue) (middle : Nat → Row Hue) (right : Cell Hue) : Row Hue :=
  match width with
  | 0 => []
  | 1 => [left]
  | inner + 2 => left :: middle inner ++ [right]

/-- The cells of a display line. -/
def cells (line : List (Span Hue)) : Row Hue :=
  line.flatMap fun span => Row.ofText span.style span.content

/-- The display lines that a pane shows, the first at the top. -/
def visible (palette : Palette Hue) (tabWidth : Nat) (pane : Pane) : List (List (Span Hue)) :=
  (Display.lines palette tabWidth pane.shader.text.tokens).drop
    (min pane.scroll.toNat offsetLimit)

def topBorder (border : Style Hue) (width : Nat) (heading : Text) : Row Hue :=
  enclose width ⟨'┌', border⟩ (fun inner => Heading.row border inner heading) ⟨'┐', border⟩

def bottomBorder (border : Style Hue) (width : Nat) : Row Hue :=
  enclose width ⟨'└', border⟩ (fun inner => List.replicate inner ⟨'─', border⟩) ⟨'┘', border⟩

/-- What a pane with the given inner width shows of a display line. A character that is wider than
the whole pane is passed over; the first other one that does not fit ends the line. -/
def lineRow (blank : Style Hue) (inner : Nat) (line : List (Span Hue)) : Row Hue :=
  Row.exactly inner ⟨' ', blank⟩ (Row.showable inner (cells line))

/-- The row of a pane that shows a display line. -/
def innerRow (border blank : Style Hue) (width : Nat) (line : List (Span Hue)) : Row Hue :=
  enclose width ⟨'│', border⟩ (fun inner => lineRow blank inner line) ⟨'│', border⟩

/-- The first lines of a list, filled up with empty lines. -/
def firstLines {α : Type} (count : Nat) (lines : List (List α)) : List (List α) :=
  let present := lines.take count
  present ++ List.replicate (count - present.length) []

/-- The rows of a pane of the given size. -/
def paneRows (palette : Palette Hue) (viewer : Viewer) (side : Side) (size : Size) :
    List (Row Hue) :=
  let pane := viewer.pane side
  let border := palette.borderStyle (side = viewer.focused)
  let top := topBorder border size.width (Heading.text side pane.shader.origin)
  match size.height with
  | 0 => []
  | 1 => [top]
  | inner + 2 =>
      let lines := visible palette viewer.settings.tabWidth.toNat pane
      top :: (firstLines inner lines).map (innerRow border palette.paneStyle size.width) ++
        [bottomBorder border size.width]

def hintRow (palette : Palette Hue) (width : Nat) : Row Hue :=
  Row.exactly width ⟨' ', palette.paneStyle⟩ (Row.ofText (palette.borderStyle false) hint)

/-- The columns of the vertex pane. -/
def vertexWidth (width : Nat) : Nat :=
  (width + 1) / 2

/-- The rows of the two panes together. -/
def panes (palette : Palette Hue) (viewer : Viewer) (size : Size) : List (Row Hue) :=
  let left := vertexWidth size.width
  List.zipWith (· ++ ·) (paneRows palette viewer .vertex ⟨left, size.height⟩)
    (paneRows palette viewer .fragment ⟨size.width - left, size.height⟩)

/-- The whole screen. -/
def draw (palette : Palette Hue) (viewer : Viewer) (size : Size) : List (Row Hue) :=
  if size.height < 2 then panes palette viewer size
  else panes palette viewer ⟨size.width, size.height - 1⟩ ++ [hintRow palette size.width]

end Screen

end ShaderLens
