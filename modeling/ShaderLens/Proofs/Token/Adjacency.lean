import ShaderLens.Proofs.Token.Resumption

/-!
# Tokens next to each other

Behind a token stands a character that does not belong to it, and with this character the next token
begins. So the rule of a token says how the next one may begin (`Text.adjacent_first`), and whether
there can be one at all: what is not closed reaches to the end of the text.
-/

namespace ShaderLens

open Form

/-- The kinds that words have. -/
def TokenKind.IsWord (kind : TokenKind) : Prop :=
  kind ∈ [keyword, type, builtin, identifier]

/-- What holds of a token and the one right behind it. -/
structure Token.Adjacent (token next : Token) : Prop where
  whitespace : token.kind = .whitespace → next.kind ≠ .whitespace
  word : token.kind.IsWord → ¬ next.kind.IsWord
  lineComment : token.kind = .comment → ['/', '/'] <+: token.text →
    next.kind = .whitespace ∧ Rule.startsWith (· ∈ ['\n', '\r', '\u2028', '\u2029']) next.text
  directive : token.kind = .preprocessor → next.kind = .whitespace ∧ next.text.head? = some '\n'
  operator : token.kind = .operator → ∀ c, token.text = [c] → c ∉ ['?', ':'] →
    next.text.head? ≠ some '='
  blockComment : token.kind = .comment → ['/', '*'] <+: token.text →
    token.text ∈ between ['/', '*'] anything ['*', '/']
  string : token.kind = .string → token.text ∈ between ['"'] quoted ['"']

/-- A token can have more than one line. -/
def Token.SpansLines (token : Token) : Prop :=
  token.kind = .whitespace ∨ token.kind = .string ∨
    token.kind = .comment ∧ ['/', '*'] <+: token.text

theorem UntilClosed.mem_of_behind {form : Form} {front more : Text} {d : Char}
    (h : UntilClosed form (front ++ d :: more) front) : front ∈ form := by
  obtain ⟨_, member, _⟩ | ⟨all, _⟩ := h
  · exact member
  · simp at all

namespace Rule

variable {rule : Rule} {rules : List Rule} {t : Text} {token : Token}

/-- The rules that give tokens of a kind. -/
def ofKind : TokenKind → List Rule
  | .whitespace => [blank]
  | .comment => [blockComment, lineComment]
  | .string => [string]
  | .number => [number]
  | .keyword | .type | .builtin | .identifier => [word]
  | .preprocessor => [directive]
  | .operator => [operator, choice]
  | .punctuation => [punctuation]
  | .unknown => [stray]

theorem ofKind_of_isWord {kind : TokenKind} (h : kind.IsWord) : ofKind kind = [word] := by
  simp only [TokenKind.IsWord, List.mem_cons, List.not_mem_nil, or_false] at h
  obtain rfl | rfl | rfl | rfl := h <;> rfl

theorem isWord_kind_word (lexeme : Text) : (word.kind lexeme).IsWord := by
  simp only [word, TokenKind.IsWord]
  split_ifs <;> simp

theorem mem_ofKind (member : rule ∈ all) (lexeme : Text) : rule ∈ ofKind (rule.kind lexeme) := by
  simp only [all, List.mem_cons, List.not_mem_nil, or_false] at member
  obtain rfl | rfl | rfl | rfl | rfl | rfl | rfl | rfl | rfl | rfl | rfl := member
  · exact List.mem_cons_self
  · exact List.mem_cons_of_mem _ List.mem_cons_self
  · exact List.mem_cons_self
  · exact List.mem_cons_self
  · exact List.mem_cons_self
  · rw [ofKind_of_isWord (isWord_kind_word lexeme)]
    exact List.mem_cons_self
  · exact List.mem_cons_self
  · exact List.mem_cons_self
  · exact List.mem_cons_of_mem _ List.mem_cons_self
  · exact List.mem_cons_self
  · exact List.mem_cons_self

theorem Decides.exists_gives (h : Decides rules t token) :
    ∃ rule ∈ rules, rule.opens t ∧ rule.Gives t token := by
  induction rules with
  | nil => exact h.elim
  | cons rule later ih =>
      obtain ⟨opens, gives⟩ | ⟨_, decides⟩ := h
      · exact ⟨rule, List.mem_cons_self, opens, gives⟩
      · obtain ⟨found, member, both⟩ := ih decides
        exact ⟨found, List.mem_cons_of_mem _ member, both⟩

end Rule

namespace Text

open Rule

variable {t more : Text} {token : Token} {later : List Token} {c d : Char}

/-- The kind of a token tells by which rule it was given. -/
theorem exists_rule_ofKind (h : t.tokens = token :: later) :
    ∃ rule ∈ ofKind token.kind, rule.opens t ∧ rule.Gives t token := by
  obtain ⟨rule, member, opens, gives⟩ := (decides_of_tokens h).exists_gives
  refine ⟨rule, ?_, opens, gives⟩
  rw [gives.2]
  exact mem_ofKind member token.text

theorem gives_of_kind {rule : Rule} (h : t.tokens = token :: later)
    (only : ofKind token.kind = [rule]) : rule.opens t ∧ rule.Gives t token := by
  obtain ⟨found, member, both⟩ := exists_rule_ofKind h
  rw [only] at member
  exact List.mem_singleton.1 member ▸ both

/-- By their first two characters the comments are told apart. -/
theorem rule_of_comment (h : t.tokens = token :: later) (kind : token.kind = .comment) :
    blockComment.Gives t token ∧ ['/', '*'] <+: token.text ∨
      lineComment.Gives t token ∧ ['/', '/'] <+: token.text := by
  obtain ⟨rule, member, opens, gives⟩ := exists_rule_ofKind h
  rw [kind] at member
  obtain rfl | rfl : rule = blockComment ∨ rule = lineComment := by simpa [ofKind] using member
  · exact .inl ⟨gives, blockComment_begins gives opens⟩
  · exact .inr ⟨gives, lineComment_begins gives opens⟩

theorem not_both_comments (block : ['/', '*'] <+: t) (line : ['/', '/'] <+: t) : False := by
  obtain ⟨more, rfl⟩ := block
  simp at line

/-! ## The character behind a token -/

theorem not_isBlank_behind (h : (token.text ++ d :: more).tokens = token :: later)
    (kind : token.kind = .whitespace) : ¬ isBlank d := by
  have gives := (gives_of_kind h (congrArg ofKind kind)).2
  exact (longest_many_iff.1 gives.1).2 d rfl

theorem not_continuesWord_behind (h : (token.text ++ d :: more).tokens = token :: later)
    (kind : token.kind.IsWord) : ¬(d.isAlpha ∨ d.isDigit ∨ d = '_') := by
  have gives := (gives_of_kind h (ofKind_of_isWord kind)).2
  exact (longest_many_iff.1 gives.1).2 d rfl

theorem eq_feed_behind (h : (token.text ++ d :: more).tokens = token :: later)
    (kind : token.kind = .preprocessor) : d = '\n' := by
  have gives := (gives_of_kind h (congrArg ofKind kind)).2
  have stops : ¬ d ≠ '\n' := (longest_many_iff.1 gives.1).2 d rfl
  exact not_not.1 stops

theorem endsLine_behind (h : (token.text ++ d :: more).tokens = token :: later)
    (kind : token.kind = .comment) (line : ['/', '/'] <+: token.text) :
    d ∈ ['\n', '\r', '\u2028', '\u2029'] := by
  obtain ⟨_, block⟩ | ⟨gives, _⟩ := rule_of_comment h kind
  · exact (not_both_comments block line).elim
  · have stops : ¬ d ∉ ['\n', '\r', '\u2028', '\u2029'] := (longest_many_iff.1 gives.1).2 d rfl
    exact not_not.1 stops

theorem closed_of_blockComment (h : (token.text ++ d :: more).tokens = token :: later)
    (kind : token.kind = .comment) (block : ['/', '*'] <+: token.text) :
    token.text ∈ between ['/', '*'] anything ['*', '/'] := by
  obtain ⟨gives, _⟩ | ⟨_, line⟩ := rule_of_comment h kind
  · exact UntilClosed.mem_of_behind gives.1
  · exact (not_both_comments block line).elim

theorem closed_of_string (h : (token.text ++ d :: more).tokens = token :: later)
    (kind : token.kind = .string) : token.text ∈ between ['"'] quoted ['"'] := by
  have gives := (gives_of_kind h (congrArg ofKind kind)).2
  exact UntilClosed.mem_of_behind gives.1

/-- An equals sign would have made the lexeme of an operator longer. -/
theorem ne_equals_behind (h : (token.text ++ d :: more).tokens = token :: later)
    (kind : token.kind = .operator) (single : token.text = [c]) (other : c ∉ ['?', ':']) :
    d ≠ '=' := by
  rintro rfl
  obtain ⟨rule, member, opens, gives⟩ := exists_rule_ofKind h
  rw [kind] at member
  rw [single] at opens
  obtain rfl | rfl : rule = operator ∨ rule = choice := by simpa [ofKind] using member
  · have combines : combining c := startsWith_cons.1 opens
    have pair : [c, '='] ∈ operator.form := cons_mem_one_mul.2 ⟨combines, .inr ⟨'=', rfl, rfl⟩⟩
    have long := gives.1.2.2 [c, '='] (by simp [single]) pair
    rw [single] at long
    simp at long
  · exact other (startsWith_cons.1 opens)

/-! ## Two tokens in a row -/

theorem kind_first_of_isBlank (blank : isBlank d) : (Token.first d more).1.kind = .whitespace := by
  have opening := Opening.of_blank blank more
  simp [Token.first, opening, Opening.kind]

theorem isAlpha_of_isWord (kind : (Token.first d more).1.kind.IsWord) : d.isAlpha ∨ d = '_' := by
  have opens := (gives_of_kind (tokens_cons d more) (ofKind_of_isWord kind)).1
  exact startsWith_cons.1 opens

theorem isBlank_of_endsLine (ends : d ∈ ['\n', '\r', '\u2028', '\u2029']) : isBlank d := by
  simp only [List.mem_cons, List.not_mem_nil, or_false] at ends
  obtain rfl | rfl | rfl | rfl := ends <;> decide

theorem adjacent_first (h : (token.text ++ d :: more).tokens = token :: later) :
    token.Adjacent (Token.first d more).1 where
  whitespace kind blank := not_isBlank_behind h kind (Token.isBlank_of_first blank)
  word kind kind' := by
    apply not_continuesWord_behind h kind
    exact (isAlpha_of_isWord kind').imp_right .inr
  lineComment kind line := by
    have ends := endsLine_behind h kind line
    exact ⟨kind_first_of_isBlank (isBlank_of_endsLine ends), d, rfl, ends⟩
  directive kind := by
    obtain rfl := eq_feed_behind h kind
    exact ⟨kind_first_of_isBlank (by decide), rfl⟩
  operator kind c single other equals :=
    ne_equals_behind h kind single other (Option.some.inj equals)
  blockComment := closed_of_blockComment h
  string := closed_of_string h

theorem isChain_adjacent (t : Text) : t.tokens.IsChain Token.Adjacent := by
  induction t using tokens.induct with
  | case1 => simp
  | case2 c rest ih =>
      rw [tokens_cons, List.isChain_cons]
      refine ⟨?_, ih⟩
      intro next isHead
      have cut := Token.first_append c rest
      cases behind : (Token.first c rest).2 with
      | nil => simp [behind] at isHead
      | cons d more =>
          rw [behind, tokens_cons, List.head?_cons, Option.mem_some] at isHead
          subst isHead
          have both : tokens ((Token.first c rest).1.text ++ d :: more) =
              (Token.first c rest).1 :: tokens (d :: more) := by
            rw [← behind, cut, tokens_cons]
          exact adjacent_first both

/-! ## Line feeds -/

/-- A token that is one character is not a line feed, unless it is whitespace. -/
theorem whitespace_of_feed (h : t.tokens = token :: later) (single : token.text ∈ one fun _ => True)
    (feed : '\n' ∈ token.text) : token.kind = .whitespace := by
  obtain ⟨c, -, text⟩ := single
  rw [text, List.mem_singleton] at feed
  cases t with
  | nil => simp at h
  | cons d more =>
      rw [tokens_cons] at h
      obtain ⟨rfl, -⟩ := List.cons.inj h
      have first : d = c := (List.cons.inj text).1
      apply kind_first_of_isBlank
      rw [first, ← feed]
      decide

theorem spansLines_of_feed (h : t.tokens = token :: later) (feed : '\n' ∈ token.text) :
    token.SpansLines := by
  obtain ⟨rule, member, opens, gives⟩ := (decides_of_tokens h).exists_gives
  obtain ⟨reach, feedless⟩ | tall | short := feed_rules member
  · have takes := gives.1
    rw [reach] at takes
    exact absurd feed (feedless _ takes.2.1)
  · simp only [List.mem_cons, List.not_mem_nil, or_false] at tall
    obtain rfl | rfl | rfl := tall
    · exact .inr (.inr ⟨gives.2, blockComment_begins gives opens⟩)
    · exact .inr (.inl gives.2)
    · exact .inl gives.2
  · left
    simp only [List.mem_cons, List.not_mem_nil, or_false] at short
    obtain rfl | rfl | rfl := short <;> exact whitespace_of_feed h gives.1.2.1 feed

/-- Every token is the first one of what is left of the text at its place. -/
theorem exists_tokens_of_mem {s : Text} (member : token ∈ s.tokens) :
    ∃ k later, (s.after k).tokens = token :: later := by
  obtain ⟨k, bound, rfl⟩ := List.mem_iff_getElem.1 member
  refine ⟨k, s.tokens.drop (k + 1), ?_⟩
  rw [tokens_after, List.drop_eq_getElem_cons bound]

end Text

/-- **Neighbouring tokens are kept apart by what stands between them.** Whitespace is not next to
whitespace and a word is not next to a word. Whitespace that begins with a line end follows a line
comment or a directive, no equals sign follows a lone operator that could have taken it, and only a
closed block comment or string has a token behind it. A line feed is in no token that has to stay on
its line. -/
theorem tokens_keep_apart (s : Text) :
    s.tokens.IsChain Token.Adjacent ∧
      ∀ token ∈ s.tokens, '\n' ∈ token.text → token.SpansLines := by
  constructor
  · exact Text.isChain_adjacent s
  · intro token member feed
    obtain ⟨k, later, here⟩ := Text.exists_tokens_of_mem member
    exact Text.spansLines_of_feed here feed

/-- Behind a question mark an equals sign is a token of its own. -/
example : Text.tokens "?=".toList = [⟨.operator, "?".toList⟩, ⟨.operator, "=".toList⟩] := by
  decide +kernel

end ShaderLens
