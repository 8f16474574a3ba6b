import ShaderLens.Style.Basic
import ShaderLens.Token.Basic

/-!
# Palettes

A palette names the colours of the viewer and so fixes the style of every kind of token, of the
panes and of their borders. All styles of a palette share its background.
-/

namespace ShaderLens

structure Palette (Hue : Type := Color) where
  background : Hue
  text : Hue
  dimmed : Hue
  borderFocused : Hue
  comment : Hue
  string : Hue
  number : Hue
  keyword : Hue
  typeName : Hue
  builtin : Hue
  preprocessor : Hue
  operator : Hue
  punctuation : Hue
  unknown : Hue
  deriving DecidableEq, Repr

namespace Palette

variable {Hue : Type}

def midnight : Palette where
  background := ⟨26, 27, 38⟩
  text := ⟨169, 177, 214⟩
  dimmed := ⟨100, 110, 150⟩
  borderFocused := ⟨122, 162, 247⟩
  comment := ⟨86, 95, 137⟩
  string := ⟨158, 206, 106⟩
  number := ⟨255, 158, 100⟩
  keyword := ⟨187, 154, 247⟩
  typeName := ⟨42, 195, 222⟩
  builtin := ⟨122, 162, 247⟩
  preprocessor := ⟨247, 118, 142⟩
  operator := ⟨137, 221, 255⟩
  punctuation := ⟨169, 177, 214⟩
  unknown := ⟨219, 75, 75⟩

/-- The style of a foreground colour on the palette's background. -/
def plain (palette : Palette Hue) (color : Hue) : Style Hue :=
  { foreground := color, background := palette.background }

/-- The style of the tokens of a kind. -/
def styleOf (palette : Palette Hue) : TokenKind → Style Hue
  | .whitespace => palette.plain palette.text
  | .comment => { palette.plain palette.comment with italic := true }
  | .string => palette.plain palette.string
  | .number => palette.plain palette.number
  | .keyword => { palette.plain palette.keyword with bold := true }
  | .type => palette.plain palette.typeName
  | .builtin => palette.plain palette.builtin
  | .preprocessor => palette.plain palette.preprocessor
  | .operator => palette.plain palette.operator
  | .identifier => palette.plain palette.text
  | .punctuation => palette.plain palette.punctuation
  | .unknown => { palette.plain palette.unknown with underlined := true }

/-- The style of the parts of a pane that no token covers. -/
def paneStyle (palette : Palette Hue) : Style Hue :=
  palette.plain palette.text

def borderStyle (palette : Palette Hue) (focused : Bool) : Style Hue :=
  palette.plain (if focused then palette.borderFocused else palette.dimmed)

theorem background_styleOf (palette : Palette Hue) (kind : TokenKind) :
    (palette.styleOf kind).background = palette.background := by
  cases kind <;> rfl

end Palette

end ShaderLens
