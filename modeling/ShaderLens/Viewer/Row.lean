import ShaderLens.Style.Basic
import ShaderLens.Text.Width

/-!
# Screen rows

A row of the screen is made of cells. A cell holds one character and is as wide as that character
is, so the widths of the cells of a row add up to the width of the screen.
-/

namespace ShaderLens

structure Cell (Hue : Type := Color) where
  char : Char
  style : Style Hue
  deriving DecidableEq, Repr

def Cell.width {Hue : Type} (cell : Cell Hue) : Nat :=
  charWidth cell.char

abbrev Row (Hue : Type := Color) := List (Cell Hue)

namespace Row

variable {Hue : Type}

/-- The columns that a row covers. -/
def width : Row Hue → Nat
  | [] => 0
  | cell :: rest => cell.width + width rest

/-- The cells of a text in one style. -/
def ofText (style : Style Hue) (t : Text) : Row Hue :=
  t.map (⟨·, style⟩)

/-- The cells of a row that fit into the given room by themselves. -/
def showable (room : Nat) (row : Row Hue) : Row Hue :=
  row.filter (·.width ≤ room)

/-- The longest front of a row that fits into the given room. -/
def fit : Nat → Row Hue → Row Hue
  | _, [] => []
  | room, cell :: rest =>
      if cell.width ≤ room then cell :: fit (room - cell.width) rest else []

/-- A row of exactly the given width: what does not fit is cut off, and what is missing is filled
up with a filler of one column. -/
def exactly (room : Nat) (filler : Cell Hue) (row : Row Hue) : Row Hue :=
  let fitted := fit room row
  fitted ++ List.replicate (room - width fitted) filler

/-- The characters of a row. -/
def text (row : Row Hue) : Text :=
  row.map Cell.char

/-- Puts a cell of the given width and style before runs of columns of one style. -/
def extendRuns [DecidableEq Hue] (columns : Nat) (style : Style Hue) :
    List (Nat × Style Hue) → List (Nat × Style Hue)
  | [] => if columns = 0 then [] else [(columns, style)]
  | (n, next) :: rest =>
      if columns = 0 then (n, next) :: rest
      else if next = style then (columns + n, style) :: rest
      else (columns, style) :: (n, next) :: rest

/-- The runs of columns of one style, as long as they can be. -/
def runs [DecidableEq Hue] (row : Row Hue) : List (Nat × Style Hue) :=
  row.foldr (fun cell => extendRuns cell.width cell.style) []

end Row

end ShaderLens
