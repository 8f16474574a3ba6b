import ShaderLens.Text.Basic

/-!
# Tokens

A token is a stretch of shader text together with its kind.
-/

namespace ShaderLens

inductive TokenKind
  | whitespace
  | comment
  | string
  | number
  | keyword
  | type
  | builtin
  | preprocessor
  | operator
  | identifier
  | punctuation
  | unknown
  deriving DecidableEq, Repr

namespace TokenKind

def all : List TokenKind :=
  [whitespace, comment, string, number, keyword, type, builtin, preprocessor, operator, identifier,
    punctuation, unknown]

theorem mem_all (k : TokenKind) : k ∈ all := by
  cases k <;> decide

/-- The name of a kind in class names and listings. -/
def name : TokenKind → Text
  | whitespace => "whitespace".toList
  | comment => "comment".toList
  | string => "string".toList
  | number => "number".toList
  | keyword => "keyword".toList
  | type => "type".toList
  | builtin => "builtin".toList
  | preprocessor => "preprocessor".toList
  | operator => "operator".toList
  | identifier => "identifier".toList
  | punctuation => "punctuation".toList
  | unknown => "unknown".toList

/-- The kind with a given name. -/
def ofName? (word : Text) : Option TokenKind :=
  all.find? (·.name = word)

theorem ofName?_name (k : TokenKind) : ofName? k.name = some k := by
  cases k <;> decide +kernel

theorem name_injective {j k : TokenKind} (same : j.name = k.name) : j = k := by
  have found := ofName?_name j
  rw [same, ofName?_name k] at found
  exact (Option.some.inj found).symm

end TokenKind

structure Token where
  kind : TokenKind
  text : Text
  deriving DecidableEq, Repr

namespace Token

/-- The text that a list of tokens was cut from. -/
def join (tokens : List Token) : Text :=
  tokens.flatMap text

end Token

end ShaderLens
