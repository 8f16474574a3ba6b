import ShaderLens.Text.Quoted
import ShaderLens.Token.Basic

/-!
# Token listings

A listing has one line per token: the name of the kind, a tab and the quoted text. A quoted text
holds no raw line feed and no raw tab, so the lines and their two fields can be told apart.
-/

namespace ShaderLens.Listing

def entry (token : Token) : Text :=
  token.kind.name ++ '\t' :: Quoted.quote token.text ++ ['\n']

def render (tokens : List Token) : Text :=
  tokens.flatMap entry

end ShaderLens.Listing
