import ShaderLens.Text.Blank
import ShaderLens.Token.Cut
import ShaderLens.Token.Vocabulary

/-!
# Lexemes

The first one or two characters of a text decide what it opens with (`Opening.of`). The opening
decides how far the lexeme reaches past its first character (`Opening.tail`), how many bytes that
is together (`Opening.extent`) and what kind of token it is (`Opening.kind`). The first character
always belongs to the lexeme, so no lexeme is empty.
-/

namespace ShaderLens

/-- The characters that end a line comment. -/
def endsLine (c : Char) : Bool :=
  c = '\n' || c = '\r' || c = '\u2028' || c = '\u2029'

/-- The characters a word begins with: ASCII letters and the underscore. -/
def startsWord (c : Char) : Bool :=
  c.isAlpha || c = '_'

/-- The characters a word goes on with: ASCII letters, ASCII digits and the underscore. -/
def continuesWord (c : Char) : Bool :=
  c.isAlphanum || c = '_'

/-- The operators that an equals sign may follow. -/
def isOperator (c : Char) : Bool :=
  c ∈ ['+', '-', '*', '/', '%', '=', '&', '|', '^', '!', '<', '>']

def isPunctuation (c : Char) : Bool :=
  c ∈ [';', ',', '(', ')', '[', ']', '{', '}', '.']

namespace Cut

/-- Takes all through the first `*/`, or to the end of a text that has none. -/
def throughClose : Text → Cut
  | [] => nothing []
  | c :: rest =>
      if c = '*' ∧ rest.head? = some '/' then ⟨c :: rest.take 1, rest.drop 1⟩
      else (throughClose rest).preceded [c]

/-- Takes all through the first double quote that no backslash masks, or to the end of a text that
has none. A backslash masks the character after it, whatever that is; `masked` says that one
stands right before the text. -/
def throughQuote (masked : Bool) : Text → Cut
  | [] => nothing []
  | c :: rest =>
      if !masked && c = '"' then ⟨[c], rest⟩
      else (throughQuote (!masked && c = '\\') rest).preceded [c]

/-- Takes `lead` and the digits after it; nothing at all when no digit follows. -/
def leadAndDigits (lead : Text) (t : Text) : Cut :=
  let digits := run Char.isDigit t
  if digits.taken = [] then nothing (lead ++ t) else digits.preceded lead

/-- Takes a point and at least one digit. -/
def fraction : Text → Cut
  | [] => nothing []
  | c :: rest => if c = '.' then leadAndDigits [c] rest else nothing (c :: rest)

/-- Takes the letter `e`, a sign if there is one, and at least one digit. -/
def exponent : Text → Cut
  | [] => nothing []
  | c :: rest =>
      if c = 'e' ∨ c = 'E' then
        let sign := one (fun s => s = '+' || s = '-') rest
        leadAndDigits (c :: sign.taken) sign.rest
      else nothing (c :: rest)

/-- Takes the letter that marks an unsigned or a floating-point number. -/
def numberSuffix : Text → Cut :=
  one (· ∈ ['u', 'U', 'f', 'F'])

/-- Takes what may follow the first digit of a number. -/
def numberTail (t : Text) : Cut :=
  (((run Char.isDigit t).andThen fraction).andThen exponent).andThen numberSuffix

theorem splits_throughClose (t : Text) : (throughClose t).Splits t := by
  induction t with
  | nil => rfl
  | cons c rest ih =>
      rw [throughClose]
      split
      · exact congrArg (c :: ·) (List.take_append_drop 1 rest)
      · exact ih.preceded [c]

theorem splits_throughQuote (masked : Bool) (t : Text) : (throughQuote masked t).Splits t := by
  induction t generalizing masked with
  | nil => rfl
  | cons c rest ih =>
      rw [throughQuote]
      split
      · rfl
      · exact (ih _).preceded [c]

theorem splits_leadAndDigits (lead t : Text) : (leadAndDigits lead t).Splits (lead ++ t) := by
  rw [leadAndDigits]
  split
  · rfl
  · exact (splits_run _ t).preceded lead

theorem splits_fraction (t : Text) : (fraction t).Splits t := by
  cases t with
  | nil => rfl
  | cons c rest =>
      rw [fraction]
      split
      · exact splits_leadAndDigits [c] rest
      · rfl

theorem splits_exponent (t : Text) : (exponent t).Splits t := by
  cases t with
  | nil => rfl
  | cons c rest =>
      rw [exponent]
      split
      · have sign := splits_one (fun s => s = '+' || s = '-') rest
        have cut := splits_leadAndDigits (c :: (one (fun s => s = '+' || s = '-') rest).taken)
          (one (fun s => s = '+' || s = '-') rest).rest
        rwa [List.cons_append, sign] at cut
      · rfl

theorem splits_numberTail (t : Text) : (numberTail t).Splits t :=
  (((splits_run _ t).andThen (splits_fraction _)).andThen (splits_exponent _)).andThen
    (splits_one _ _)

end Cut

/-- What a text opens with. -/
inductive Opening
  | blockComment
  | lineComment
  | quote
  | directive
  | digit
  | word
  | blank
  | operator
  | choice
  | punctuation
  | stray
  deriving DecidableEq, Repr

namespace Opening

/-- What the text `c :: rest` opens with; the first rule that applies decides. -/
def of (c : Char) (rest : Text) : Opening :=
  if c = '/' ∧ rest.head? = some '*' then blockComment
  else if c = '/' ∧ rest.head? = some '/' then lineComment
  else if c = '"' then quote
  else if c = '#' then directive
  else if c.isDigit then digit
  else if startsWord c then word
  else if isBlank c then blank
  else if isOperator c then operator
  else if c = '?' ∨ c = ':' then choice
  else if isPunctuation c then punctuation
  else stray

/-- Takes what belongs to the lexeme of the text after its first character. -/
def tail : Opening → Text → Cut
  | blockComment, rest => (Cut.throughClose (rest.drop 1)).preceded (rest.take 1)
  | lineComment, rest => Cut.run (fun c => !endsLine c) rest
  | quote, rest => Cut.throughQuote false rest
  | directive, rest => Cut.run (· ≠ '\n') rest
  | digit, rest => Cut.numberTail rest
  | word, rest => Cut.run continuesWord rest
  | blank, rest => Cut.run isBlank rest
  | operator, rest => Cut.one (· = '=') rest
  | choice, rest => Cut.nothing rest
  | punctuation, rest => Cut.nothing rest
  | stray, rest => Cut.nothing rest

/-- How many bytes of a text a lexeme with the opening takes: none if the text opens otherwise. -/
def extent (opening : Opening) : Text → Nat
  | [] => 0
  | c :: rest =>
      if of c rest = opening then Text.byteLength (c :: (opening.tail rest).taken) else 0

/-- The kind of a lexeme; of a word the vocabulary decides. -/
def kind : Opening → Text → TokenKind
  | blockComment, _ => .comment
  | lineComment, _ => .comment
  | quote, _ => .string
  | directive, _ => .preprocessor
  | digit, _ => .number
  | word, lexeme => Vocabulary.kindOf lexeme
  | blank, _ => .whitespace
  | operator, _ => .operator
  | choice, _ => .operator
  | punctuation, _ => .punctuation
  | stray, _ => .unknown

theorem splits_tail (opening : Opening) (rest : Text) : (opening.tail rest).Splits rest := by
  cases opening with
  | blockComment =>
      have cut := (Cut.splits_throughClose (rest.drop 1)).preceded (rest.take 1)
      rwa [List.take_append_drop] at cut
  | lineComment | directive | word | blank => exact Cut.splits_run _ rest
  | quote => exact Cut.splits_throughQuote false rest
  | digit => exact Cut.splits_numberTail rest
  | operator => exact Cut.splits_one _ rest
  | choice | punctuation | stray => exact Cut.splits_nothing rest

end Opening

end ShaderLens
