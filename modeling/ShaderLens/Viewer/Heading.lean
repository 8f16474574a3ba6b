import ShaderLens.Text.Lines
import ShaderLens.Viewer.Basic
import ShaderLens.Viewer.Row

/-!
# Headings

The heading of a pane is written on its top border. It gives the title of the pane and the origin
of its shader.

A border has one row only, so the parts of a heading between its line breaks stand side by side.
Control characters are not shown, yet each has its column: what a part shows stands at its left
end, and the line of the border goes on in the columns that are left over.
-/

namespace ShaderLens.Heading

variable {Hue : Type}

/-- The heading of a pane at the given side. -/
def text (side : Side) (origin : Text) : Text :=
  ' ' :: side.title ++ " (".toList ++ origin ++ ") ".toList

/-- A line without the carriage return at its end. -/
def withoutReturn (line : Text) : Text :=
  if line.getLast? = some '\r' then line.dropLast else line

/-- Takes away the carriage returns that belong to line breaks: those right at the end of a line
that is not the last one. -/
def partsOf : List Text → List Text
  | [] => []
  | [last] => [last]
  | line :: next :: rest => withoutReturn line :: partsOf (next :: rest)

/-- The parts of a heading. -/
def parts (heading : Text) : List Text :=
  partsOf heading.lines

/-- The columns that a part takes up. -/
def columns : Text → Nat
  | [] => 0
  | c :: rest => (if isControl c then 1 else charWidth c) + columns rest

/-- A part as it stands on a border, of which it gets the given number of columns. -/
def partRow (border : Style Hue) (room : Nat) (part : Text) : Row Hue :=
  Row.exactly room ⟨'─', border⟩ (Row.ofText border (part.filter (!isControl ·)))

/-- The parts one beside the other, as far as there is room for them. -/
def sideBySide (border : Style Hue) : Nat → List Text → Row Hue
  | _, [] => []
  | room, part :: rest =>
      let own := min room (columns part)
      partRow border own part ++ sideBySide border (room - own) rest

/-- The border between its ends, with a heading on it. -/
def row (border : Style Hue) (room : Nat) (heading : Text) : Row Hue :=
  Row.exactly room ⟨'─', border⟩ (sideBySide border room (parts heading))

end ShaderLens.Heading
