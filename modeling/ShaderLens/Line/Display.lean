import ShaderLens.Line.TabStop
import ShaderLens.Style.Palette
import ShaderLens.Text.Lines
import ShaderLens.Token.Basic

/-!
# Display lines

Tokens are shown line by line. A token that goes over several lines is cut at its line feeds into
pieces of the same kind (`Token.lines`); then each line is expanded by itself from column zero,
where a piece begins in the column in which the one before it has ended (`spans`). A piece that
shows nothing makes no span.
-/

namespace ShaderLens

/-- A stretch of shown text in one style. -/
structure Span (Hue : Type := Color) where
  content : Text
  style : Style Hue
  deriving DecidableEq, Repr

namespace Token

/-- The pieces of a token, one on each of its lines. -/
def pieces (token : Token) : List (List Token) :=
  token.text.lines.map fun line => [⟨token.kind, line⟩]

/-- The lines of a list of tokens, each the list of the pieces on it. -/
def lines (tokens : List Token) : List (List Token) :=
  tokens.foldr (fun token rest => joinLines token.pieces rest) [[]]

end Token

namespace Display

variable {Hue : Type}

/-- The spans of the pieces of one line, the first of which begins in the given column. -/
def spans (palette : Palette Hue) (every : Nat) : Nat → List Token → List (Span Hue)
  | _, [] => []
  | column, piece :: rest =>
      let content := TabStop.expand every column piece.text
      let others := spans palette every (column + content.width) rest
      if content = [] then others else ⟨content, palette.styleOf piece.kind⟩ :: others

/-- The lines that show a list of tokens. A tab width of zero counts as one. -/
def lines (palette : Palette Hue) (tabWidth : Nat) (tokens : List Token) : List (List (Span Hue)) :=
  (Token.lines tokens).map (spans palette (max tabWidth 1) 0)

end Display

end ShaderLens
