import ShaderLens.Markup.Escape
import ShaderLens.Token.Lexer

/-!
# Highlighted markup

Each token becomes an element whose class names its kind. Whitespace stands between the elements
as text of its own, so that line breaks and indentation stay where they are.
-/

namespace ShaderLens.Markup

structure Settings where
  /-- What stands before the name of the kind in a class. -/
  classPrefix : Text := "token-".toList
  /-- Whether a line feed ends the markup, so that the last line keeps its height. -/
  trailingNewline : Bool := true
  deriving DecidableEq, Repr

def element (settings : Settings) (token : Token) : Text :=
  "<span class=\"".toList ++ escape settings.classPrefix ++ token.kind.name ++ "\">".toList ++
    escape token.text ++ "</span>".toList

/-- The markup of one token. -/
def piece (settings : Settings) (token : Token) : Text :=
  if token.kind = .whitespace then escape token.text else element settings token

def ending (settings : Settings) : Text :=
  if settings.trailingNewline then ['\n'] else []

/-- The markup of a list of tokens. -/
def render (settings : Settings) (tokens : List Token) : Text :=
  tokens.flatMap (piece settings) ++ ending settings

/-- The markup of a shader text. -/
def highlight (settings : Settings) (source : Text) : Text :=
  render settings source.tokens

end ShaderLens.Markup
