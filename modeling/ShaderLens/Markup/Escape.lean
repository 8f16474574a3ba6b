import ShaderLens.Text.Basic

/-!
# Escaped text

The five characters that markup gives a meaning are written as entities.
-/

namespace ShaderLens.Markup

/-- How a character is written in markup text and attributes. -/
def escapeChar (c : Char) : Text :=
  if c = '&' then "&amp;".toList
  else if c = '<' then "&lt;".toList
  else if c = '>' then "&gt;".toList
  else if c = '"' then "&quot;".toList
  else if c = '\x27' then "&#39;".toList
  else [c]

def escape (t : Text) : Text :=
  t.flatMap escapeChar

@[simp] theorem escape_nil : escape [] = [] := rfl

@[simp] theorem escape_append (s t : Text) : escape (s ++ t) = escape s ++ escape t := by
  simp [escape]

/-- How an escaped character is written where line feeds have to be elements. -/
def breakLine (c : Char) : Text :=
  if c = '\n' then "<br />".toList else [c]

/-- Escaped text without highlighting, each line feed a line break element. -/
def plain (t : Text) : Text :=
  (escape t).flatMap breakLine

end ShaderLens.Markup
