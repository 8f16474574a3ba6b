import ShaderLens.Text.Hexadecimal
import ShaderLens.Text.Unprintable

/-!
# Quoted texts

A quoted text stands between double quotes on one line. Six characters have a short escape, the
other unprintable ones are written by their code point, and all else stands for itself.
-/

namespace ShaderLens.Quoted

/-- How a character is written between the quotes. -/
def escapeChar (c : Char) : Text :=
  if c = '\t' then ['\\', 't']
  else if c = '\n' then ['\\', 'n']
  else if c = '\r' then ['\\', 'r']
  else if c = '\x00' then ['\\', '0']
  else if c = '"' then ['\\', '"']
  else if c = '\\' then ['\\', '\\']
  else if isUnprintable c then ['\\', 'u', '{'] ++ Hexadecimal.numeral c.toNat ++ ['}']
  else [c]

def quote (t : Text) : Text :=
  '"' :: t.flatMap escapeChar ++ ['"']

end ShaderLens.Quoted
