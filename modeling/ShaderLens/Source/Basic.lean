import ShaderLens.Text.Blank

/-!
# Sources

Where the text of a shader comes from. On a command line a source is one word: `@@` is the
clipboard, `-` is standard input, and `@path` or `path` is a file.
-/

namespace ShaderLens

inductive Source
  | file (path : Text)
  | clipboard
  | stdin
  deriving DecidableEq, Repr

namespace Source

/-- The source that a word names. Blanks around it do not count, and only one leading `@` is not
part of a path. -/
def ofWord? (word : Text) : Option Source :=
  let name := word.trim
  if name = [] ∨ name = ['@'] then none
  else if name = ['@', '@'] then some clipboard
  else if name = ['-'] then some stdin
  else
    let path := if name.head? = some '@' then Text.trim (name.drop 1) else name
    if path = [] then none else some (file path)

/-- The label under which a shader is shown and failures are reported. -/
def origin : Source → Text
  | file path => "file:".toList ++ path
  | clipboard => "clipboard".toList
  | stdin => "stdin".toList

end Source

/-- The text of a shader, with the label of where it came from. -/
structure Shader where
  text : Text
  origin : Text
  deriving DecidableEq, Repr

end ShaderLens
