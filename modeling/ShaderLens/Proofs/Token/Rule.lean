import ShaderLens.Proofs.Token.Numeral
import ShaderLens.Proofs.Token.Partition

/-!
# The rules that decide tokens

A rule says which texts it is for, how far the first token of such a text reaches and what kind it
is of. Of the rules in their order (`Rule.all`) the first that is for a text decides its first
token, and no two tokens can be meant (`Decides.unique`). `tokens_decided` says that lexing follows
these rules at every place of every text.
-/

namespace ShaderLens

/-- Which of the fronts of a form a lexeme is. -/
inductive Reach
  | longest
  | untilClosed

def Reach.Takes : Reach → Form → Text → Text → Prop
  | longest => Longest
  | untilClosed => UntilClosed

theorem Reach.Takes.unique {reach : Reach} {form : Form} {t a b : Text}
    (ha : reach.Takes form t a) (hb : reach.Takes form t b) : a = b := by
  cases reach with
  | longest => exact Longest.unique ha hb
  | untilClosed => exact UntilClosed.unique ha hb

structure Rule where
  /-- Whether the rule is for a text. -/
  opens : Text → Prop
  form : Form
  reach : Reach := .longest
  kind : Text → TokenKind

namespace Rule

open Form

def startsWith (p : Char → Prop) (t : Text) : Prop :=
  ∃ c ∈ t.head?, p c

def blockComment : Rule where
  opens t := ['/', '*'] <+: t
  form := between ['/', '*'] anything ['*', '/']
  reach := .untilClosed
  kind _ := .comment

def lineComment : Rule where
  opens t := ['/', '/'] <+: t
  form := many (· ∉ ['\n', '\r', '\u2028', '\u2029'])
  kind _ := .comment

def string : Rule where
  opens := startsWith (· = '"')
  form := between ['"'] quoted ['"']
  reach := .untilClosed
  kind _ := .string

def directive : Rule where
  opens := startsWith (· = '#')
  form := many (· ≠ '\n')
  kind _ := .preprocessor

def number : Rule where
  opens := startsWith (·.isDigit)
  form := numeral
  kind _ := .number

def word : Rule where
  opens := startsWith fun c => c.isAlpha ∨ c = '_'
  form := many fun c => c.isAlpha ∨ c.isDigit ∨ c = '_'
  kind word :=
    if Vocabulary.keywords.contains word then .keyword
    else if Vocabulary.types.contains word then .type
    else if Vocabulary.builtins.contains word then .builtin
    else .identifier

def blank : Rule where
  opens := startsWith (isBlank ·)
  form := many (isBlank ·)
  kind _ := .whitespace

/-- The operators that an equals sign may follow. -/
def combining (c : Char) : Prop :=
  c ∈ ['+', '-', '*', '/', '%', '=', '&', '|', '^', '!', '<', '>']

def operator : Rule where
  opens := startsWith combining
  form := one combining * (1 + one (· = '='))
  kind _ := .operator

def choice : Rule where
  opens := startsWith (· ∈ ['?', ':'])
  form := one fun _ => True
  kind _ := .operator

def punctuation : Rule where
  opens := startsWith (· ∈ [';', ',', '(', ')', '[', ']', '{', '}', '.'])
  form := one fun _ => True
  kind _ := .punctuation

def stray : Rule where
  opens := startsWith fun _ => True
  form := one fun _ => True
  kind _ := .unknown

theorem madeOf_operator : MadeOf (fun c => combining c ∨ c = '=') operator.form :=
  (madeOf_one.mono fun _ => .inl).mul (madeOf_one.mono fun _ => .inr).perhaps

/-- The rules, the first of them first asked. -/
def all : List Rule :=
  [blockComment, lineComment, string, directive, number, word, blank, operator, choice, punctuation,
    stray]

/-- The first token of a text as a rule has it. -/
def Gives (rule : Rule) (t : Text) (token : Token) : Prop :=
  rule.reach.Takes rule.form t token.text ∧ token.kind = rule.kind token.text

/-- The first of the rules that is for a text gives its first token. -/
def Decides : List Rule → Text → Token → Prop
  | [], _, _ => False
  | rule :: later, t, token =>
      rule.opens t ∧ rule.Gives t token ∨ ¬ rule.opens t ∧ Decides later t token

/-- Tokens by the same rule are told apart by their texts. -/
theorem Gives.eq_of_text {rule : Rule} {t u : Text} {a b : Token} (ha : rule.Gives t a)
    (hb : rule.Gives u b) (same : a.text = b.text) : a = b := by
  have kind : a.kind = b.kind := by rw [ha.2, hb.2, same]
  cases a
  cases b
  exact congr (congrArg Token.mk kind) same

theorem Gives.unique {rule : Rule} {t : Text} {a b : Token} (ha : rule.Gives t a)
    (hb : rule.Gives t b) : a = b :=
  ha.eq_of_text hb (ha.1.unique hb.1)

theorem Decides.unique {rules : List Rule} {t : Text} {a b : Token} (ha : Decides rules t a)
    (hb : Decides rules t b) : a = b := by
  induction rules with
  | nil => exact ha.elim
  | cons rule later ih =>
      obtain ⟨opens, gives⟩ | ⟨closed, decides⟩ := ha <;>
        obtain ⟨opens', gives'⟩ | ⟨closed', decides'⟩ := hb
      · exact gives.unique gives'
      · exact absurd opens closed'
      · exact absurd opens' closed
      · exact ih decides decides'

theorem startsWith_cons {p : Char → Prop} {c : Char} {rest : Text} :
    startsWith p (c :: rest) ↔ p c := by
  simp [startsWith]

theorem pair_prefix_cons {a b c : Char} {rest : Text} :
    [a, b] <+: c :: rest ↔ c = a ∧ rest.head? = some b := by
  rw [List.cons_prefix_cons, List.head?_eq_some_iff, eq_comm]
  exact and_congr_right fun _ => ⟨fun ⟨more, same⟩ => ⟨more, same.symm⟩,
    fun ⟨more, same⟩ => ⟨more, same.symm⟩⟩

theorem longest_single {p : Char → Prop} {c : Char} (holds : p c) (rest : Text) :
    Longest (one p) (c :: rest) [c] := by
  refine ⟨⟨rest, rfl⟩, ⟨c, holds, rfl⟩, ?_⟩
  rintro other _ ⟨d, _, rfl⟩
  simp

end Rule

namespace Opening

/-- The rule of an opening. -/
def rule : Opening → Rule
  | blockComment => .blockComment
  | lineComment => .lineComment
  | quote => .string
  | directive => .directive
  | digit => .number
  | word => .word
  | blank => .blank
  | operator => .operator
  | choice => .choice
  | punctuation => .punctuation
  | stray => .stray

/-- The first token of the text `c :: rest` if it has the given opening. -/
def token (opening : Opening) (c : Char) (rest : Text) : Token :=
  ⟨opening.kind (c :: (opening.tail rest).taken), c :: (opening.tail rest).taken⟩

open Rule

variable {c : Char} {rest : Text}

/-- Where the rule of an opening is for a text, it gives the token of the opening. -/
theorem gives_token (opening : Opening) (opens : opening.rule.opens (c :: rest)) :
    opening.rule.Gives (c :: rest) (opening.token c rest) := by
  cases opening with
  | blockComment =>
      obtain ⟨rfl, star⟩ := pair_prefix_cons.1 opens
      obtain ⟨more, rfl⟩ := List.head?_eq_some_iff.1 star
      exact ⟨Cut.untilClosed_throughClose more, rfl⟩
  | lineComment =>
      obtain ⟨rfl, _⟩ := pair_prefix_cons.1 opens
      exact ⟨Cut.longest_run_cons (by simp [endsLine, and_assoc]) (by decide) rest, rfl⟩
  | quote =>
      obtain rfl := startsWith_cons.1 opens
      exact ⟨Cut.untilClosed_throughQuote rest, rfl⟩
  | directive =>
      obtain rfl := startsWith_cons.1 opens
      exact ⟨Cut.longest_run_cons (by simp) (by decide) rest, rfl⟩
  | digit => exact ⟨Cut.longest_numeral (startsWith_cons.1 opens) rest, rfl⟩
  | word =>
      have first : c.isAlpha ∨ c.isDigit ∨ c = '_' := (startsWith_cons.1 opens).imp_right .inr
      constructor
      · exact Cut.longest_run_cons (by simp [continuesWord, Char.isAlphanum, or_assoc]) first rest
      · simp [token, kind, rule, Rule.word, Vocabulary.kindOf]
  | blank => exact ⟨Cut.longest_run_cons (fun _ => Iff.rfl) (startsWith_cons.1 opens) rest, rfl⟩
  | operator =>
      exact ⟨(Cut.longest_one (by simp) rest).cons (startsWith_cons.1 opens), rfl⟩
  | choice | punctuation | stray => exact ⟨longest_single trivial rest, rfl⟩

theorem decides_ite {p : Prop} [Decidable p] {later : List Rule} {other : Opening}
    (opening : Opening) (opens : opening.rule.opens (c :: rest) ↔ p)
    (decides : Decides later (c :: rest) (other.token c rest)) :
    Decides (opening.rule :: later) (c :: rest) ((if p then opening else other).token c rest) := by
  split
  · next holds => exact .inl ⟨opens.2 holds, opening.gives_token (opens.2 holds)⟩
  · next fails => exact .inr ⟨mt opens.1 fails, decides⟩

theorem decides_first (c : Char) (rest : Text) :
    Decides Rule.all (c :: rest) (Token.first c rest).1 := by
  change Decides Rule.all (c :: rest) ((Opening.of c rest).token c rest)
  rw [Opening.of]
  refine decides_ite .blockComment pair_prefix_cons ?_
  refine decides_ite .lineComment pair_prefix_cons ?_
  refine decides_ite .quote startsWith_cons ?_
  refine decides_ite .directive startsWith_cons ?_
  refine decides_ite .digit startsWith_cons ?_
  refine decides_ite .word (startsWith_cons.trans (by simp [startsWord])) ?_
  refine decides_ite .blank startsWith_cons ?_
  refine decides_ite .operator (startsWith_cons.trans (by simp [combining, isOperator])) ?_
  refine decides_ite .choice (startsWith_cons.trans (by simp)) ?_
  refine decides_ite .punctuation (startsWith_cons.trans (by simp [isPunctuation])) ?_
  exact .inl ⟨startsWith_cons.2 trivial, gives_token .stray (startsWith_cons.2 trivial)⟩

end Opening

theorem Rule.not_decides_nil {token : Token} : ¬ Decides all [] token := by
  simp [all, Decides, blockComment, lineComment, string, directive, number, word, blank, operator,
    choice, punctuation, stray, startsWith]

/-- **Every token is the one that the rules decide.** At each place of a text where a token starts,
the first rule that is for the rest of the text gives the extent and the kind of that token. -/
theorem tokens_decided (s : Text) (k : Nat) (token : Token) :
    s.tokens[k]? = some token ↔ Rule.Decides Rule.all (s.after k) token := by
  have here : s.tokens[k]? = (s.after k).tokens.head? := by
    rw [Text.tokens_after, List.head?_drop]
  rw [here]
  cases s.after k with
  | nil => simp [Rule.not_decides_nil]
  | cons c rest =>
      rw [Text.tokens_cons, List.head?_cons, Option.some.injEq]
      constructor
      · rintro rfl
        exact Opening.decides_first c rest
      · exact (Opening.decides_first c rest).unique

end ShaderLens
