import ShaderLens.Proofs.Token.Adjacency

/-!
# How far strings and numbers reach

How much of a text a lexeme takes is measured in bytes (`Opening.extent`). A string takes the
shortest front of the text that is closed, and a number the longest front that is a numeral. Text
with a backslash in front of each quote and each backslash can stand between quotes as it is
(`strings_reach_closing_quote`), and a part of a numeral that is not complete is left to the tokens
behind the number (`numbers_take_longest_numeral`).
-/

namespace ShaderLens

open Form
open scoped Computability

/-- The text with a backslash in front of each quote and each backslash. -/
def Text.masked (t : Text) : Text :=
  t.flatMap fun c => if c = '"' ∨ c = '\\' then ['\\', c] else [c]

namespace Opening

variable {c : Char} {rest : Text}

theorem of_eq_digit_iff : of c rest = digit ↔ c.isDigit := by
  constructor
  · intro h
    grind [of]
  · intro h
    have other : c ∉ ['/', '"', '#'] := by
      intro member
      simp only [List.mem_cons, List.not_mem_nil, or_false] at member
      obtain rfl | rfl | rfl := member <;> revert h <;> decide
    grind [of]

theorem extent_quote (rest : Text) :
    quote.extent ('"' :: rest) = Text.byteLength ('"' :: (Cut.throughQuote false rest).taken) :=
  (Token.byteLength_first '"' rest).symm

theorem extent_digit (h : c.isDigit) (rest : Text) :
    digit.extent (c :: rest) = Text.byteLength (c :: (Cut.numberTail rest).taken) :=
  if_pos (of_eq_digit_iff.2 h)

theorem extent_digit_eq_zero (h : ¬ c.isDigit) (rest : Text) : digit.extent (c :: rest) = 0 :=
  if_neg (mt of_eq_digit_iff.1 h)

end Opening

/-! ## Strings -/

namespace Text

theorem masked_mem_quoted (w : Text) : w.masked ∈ quoted := by
  induction w with
  | nil => exact Language.nil_mem_kstar _
  | cons c w ih =>
      rw [masked, List.flatMap_cons, ← masked]
      split_ifs with special
      · exact masked_cons_mem_quoted ih
      · rw [not_or] at special
        exact plain_cons_mem_quoted special.1 special.2 ih

theorem tokens_quote (rest : Text) :
    tokens ('"' :: rest) = ⟨.string, '"' :: (Cut.throughQuote false rest).taken⟩ ::
      tokens (Cut.throughQuote false rest).rest :=
  tokens_cons '"' rest

end Text

/-- **A string reaches to the first quote that no backslash masks.** Of a text that begins with a
quote it takes the shortest front that is quoted text between two quotes, or all of the text if
there is none. Any text with its quotes and backslashes masked is one string between quotes,
whatever is behind it. -/
theorem strings_reach_closing_quote :
    (∀ rest : Text, ∃ front behind : Text, front ++ behind = '"' :: rest ∧
      UntilClosed (between ['"'] quoted ['"']) ('"' :: rest) front ∧
      Opening.quote.extent ('"' :: rest) = front.byteLength ∧
      Text.tokens ('"' :: rest) = ⟨.string, front⟩ :: behind.tokens) ∧
    ∀ w b : Text, Text.tokens ('"' :: w.masked ++ '"' :: b) =
      ⟨.string, '"' :: w.masked ++ ['"']⟩ :: b.tokens := by
  constructor
  · intro rest
    have cut := Cut.splits_throughQuote false rest
    refine ⟨'"' :: (Cut.throughQuote false rest).taken, (Cut.throughQuote false rest).rest, ?_⟩
    refine ⟨congrArg ('"' :: ·) cut, ?_, Opening.extent_quote rest, Text.tokens_quote rest⟩
    exact Cut.untilClosed_throughQuote rest
  · intro w b
    rw [List.cons_append, Text.tokens_quote, Cut.throughQuote_of_quoted w.masked_mem_quoted]
    rfl

/-- A backslash masks the quote behind it, but not if it is masked itself. -/
example : Text.tokens "\"a\\\";".toList = [⟨.string, "\"a\\\";".toList⟩] ∧
    Text.tokens "\"a\\\\\";".toList =
      [⟨.string, "\"a\\\\\"".toList⟩, ⟨.punctuation, ";".toList⟩] := by
  decide +kernel

/-! ## Numbers -/

namespace Form

variable {t mantissa behind : Text}

theorem exists_digit_of_mem_numeral (h : t ∈ numeral) : ∃ c rest, t = c :: rest ∧ c.isDigit := by
  rw [numeral, digits, mul_assoc, mul_assoc, mul_assoc] at h
  cases t with
  | nil => exact absurd h nil_not_mem_one_mul
  | cons c rest => exact ⟨c, rest, rfl, (cons_mem_one_mul.1 h).1⟩

theorem longest_digits (member : t ∈ digits) (stop : ∀ c ∈ behind.head?, ¬ c.isDigit) :
    Longest digits (t ++ behind) t := by
  cases t with
  | nil => exact absurd member nil_not_mem_one_mul
  | cons c rest =>
      obtain ⟨digit, all⟩ := cons_mem_one_mul.1 member
      exact (longest_many_iff.2 ⟨all, stop⟩).cons digit

/-- A fraction that is there, or none where none begins, is all that the text has of one. -/
theorem longest_fraction_append (member : t ∈ 1 + fraction)
    (stop : ∀ c ∈ behind.head?, ¬ c.isDigit)
    (never : ∀ front, front <+: behind → front ∉ fraction) :
    Longest (1 + fraction) (t ++ behind) t := by
  obtain rfl | ⟨_, ⟨point, same, rfl⟩, more, inDigits, rfl⟩ := member
  · exact .perhaps_none never
  · exact ((longest_digits inDigits stop).cons (p := (· = '.')) same).perhaps

theorem not_isDigit_head_fraction (member : t ∈ 1 + fraction)
    (stop : ∀ c ∈ behind.head?, ¬ c.isDigit) : ∀ c ∈ (t ++ behind).head?, ¬ c.isDigit := by
  obtain rfl | ⟨_, ⟨point, rfl, rfl⟩, more, _, rfl⟩ := member
  · exact stop
  · rintro c ⟨⟩
    decide

/-- Where a point or a letter begins neither a fraction nor an exponent, no part of a numeral
begins. -/
theorem longest_ending_of_incomplete (mark : Rule.startsWith (· ∈ ['.', 'e', 'E']) behind)
    (never : ∀ front, front <+: behind → front ∉ exponent) :
    Longest ((1 + exponent) * (1 + suffix)) behind [] := by
  have noPower : Longest (1 + exponent) behind [] := .perhaps_none never
  have noSuffix : Longest (1 + suffix) behind [] := by
    obtain ⟨c, isHead, mark⟩ := mark
    obtain ⟨more, rfl⟩ := List.head?_eq_some_iff.1 isHead
    refine .nil (.inl rfl) ?_
    intro other isFront inside
    cases other with
    | nil => rfl
    | cons d other =>
        obtain ⟨rfl, -⟩ := List.cons_prefix_cons.1 isFront
        have disjoint : ∀ c ∈ ['.', 'e', 'E'], c ∉ ['u', 'U', 'f', 'F'] := by simp
        exact absurd (suffix_head inside) (disjoint d mark)
  exact noPower.mul noSuffix apart_exponent

/-- What begins like a fraction or an exponent and is none does not belong to the number before. -/
theorem longest_numeral_of_incomplete (member : mantissa ∈ digits * (1 + fraction))
    (mark : Rule.startsWith (· ∈ ['.', 'e', 'E']) behind)
    (never : ∀ front, front <+: behind → front ∉ fraction + exponent) :
    Longest numeral (mantissa ++ behind) mantissa := by
  obtain ⟨whole, inDigits, part, inFraction, rfl⟩ := Language.mem_mul.1 member
  have stop : ∀ c ∈ behind.head?, ¬ c.isDigit := by
    intro c isHead
    obtain ⟨d, isHead', mark⟩ := mark
    obtain rfl := Option.some.inj (isHead.symm.trans isHead')
    exact not_isDigit_of_mem_partHeads c (List.mem_of_mem_take (i := 3) mark)
  have ending := longest_ending_of_incomplete mark fun front isFront inside =>
    never front isFront (.inr inside)
  have fromPart := (longest_fraction_append inFraction stop fun front isFront inside =>
    never front isFront (.inl inside)).mul ending apart_fraction
  cases whole with
  | nil => exact absurd inDigits nil_not_mem_one_mul
  | cons c rest =>
      obtain ⟨digit, all⟩ := cons_mem_one_mul.1 inDigits
      have fromRest := longest_many_iff.2 ⟨all, not_isDigit_head_fraction inFraction stop⟩
      have fromFirst := (fromRest.mul fromPart apart_digits).cons (p := (·.isDigit)) digit
      simpa only [numeral, digits, mul_assoc, List.append_nil, List.cons_append,
        List.append_assoc] using fromFirst

end Form

namespace Text

variable {t front behind : Text} {c : Char}

theorem tokens_digit (h : c.isDigit) (rest : Text) :
    tokens (c :: rest) = ⟨.number, c :: (Cut.numberTail rest).taken⟩ ::
      tokens (Cut.numberTail rest).rest := by
  have opening : Opening.of c rest = .digit := Opening.of_eq_digit_iff.2 h
  rw [tokens_cons]
  simp only [Token.first, opening, Opening.tail, Opening.kind]

/-- Where a text begins with a numeral, its first token is a number, and the longest one. -/
theorem head?_tokens_eq_number_iff :
    t.tokens.head? = some ⟨.number, front⟩ ↔ Longest numeral t front := by
  constructor
  · intro h
    obtain ⟨later, first⟩ := List.head?_eq_some_iff.1 h
    exact (gives_of_kind first rfl).2.1
  · intro h
    obtain ⟨c, more, rfl, digit⟩ := exists_digit_of_mem_numeral h.2.1
    obtain ⟨rest, rfl⟩ := h.1
    have first := Cut.longest_numeral digit (more ++ rest)
    rw [List.cons_append] at h ⊢
    rw [tokens_digit digit, List.head?_cons, first.unique h]

theorem tokens_of_longest_numeral (h : Longest numeral (front ++ behind) front) :
    tokens (front ++ behind) = ⟨.number, front⟩ :: behind.tokens := by
  obtain ⟨later, first⟩ := List.head?_eq_some_iff.1 (head?_tokens_eq_number_iff.2 h)
  have cut := tokens_of_decides (decides_of_tokens first)
  rwa [List.drop_left] at cut

end Text

/-- **A number is the longest numeral.** It takes the longest front of the text that is a numeral
and nothing where no front is one. So the numbers among the tokens are the longest numerals at their
places. What begins like a fraction or an exponent but is not complete belongs to the tokens behind
the number, with the sign that it may have. -/
theorem numbers_take_longest_numeral :
    (∀ t : Text, (∃ front, Longest numeral t front ∧ Opening.digit.extent t = front.byteLength) ∨
      (∀ front, front <+: t → front ∉ numeral) ∧ Opening.digit.extent t = 0) ∧
    (∀ (s : Text) (k : Nat) (lexeme : Text),
      s.tokens[k]? = some ⟨.number, lexeme⟩ ↔ Longest numeral (s.after k) lexeme) ∧
    ∀ mantissa behind : Text, mantissa ∈ digits * (1 + fraction) →
      Rule.startsWith (· ∈ ['.', 'e', 'E']) behind →
      (∀ front, front <+: behind → front ∉ fraction + exponent) →
      Text.tokens (mantissa ++ behind) = ⟨.number, mantissa⟩ :: behind.tokens := by
  refine ⟨?_, ?_, ?_⟩
  · intro t
    by_cases digit : Rule.startsWith (·.isDigit) t
    · obtain ⟨c, isHead, digit⟩ := digit
      obtain ⟨rest, rfl⟩ := List.head?_eq_some_iff.1 isHead
      exact .inl ⟨_, Cut.longest_numeral digit rest, Opening.extent_digit digit rest⟩
    · right
      constructor
      · intro front isFront member
        obtain ⟨c, more, rfl, isDigit⟩ := exists_digit_of_mem_numeral member
        obtain ⟨rest, rfl⟩ := isFront
        exact digit ⟨c, rfl, isDigit⟩
      · cases t with
        | nil => rfl
        | cons c rest =>
            apply Opening.extent_digit_eq_zero
            intro isDigit
            exact digit ⟨c, rfl, isDigit⟩
  · intro s k lexeme
    rw [← List.head?_drop, ← Text.tokens_after]
    exact Text.head?_tokens_eq_number_iff
  · intro mantissa behind member mark never
    exact Text.tokens_of_longest_numeral (longest_numeral_of_incomplete member mark never)

/-- A point without digits ends the number, although an exponent follows, and so does an exponent
without digits, although a sign does. -/
example : Text.tokens "1.e5".toList =
      [⟨.number, "1".toList⟩, ⟨.punctuation, ".".toList⟩, ⟨.identifier, "e5".toList⟩] ∧
    Text.tokens "2.5e+".toList =
      [⟨.number, "2.5".toList⟩, ⟨.identifier, "e".toList⟩, ⟨.operator, "+".toList⟩] := by
  decide +kernel

end ShaderLens
