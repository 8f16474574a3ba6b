import ShaderLens.Proofs.Token.Boundary

/-!
# Texts that go on

A token keeps its extent and its kind when its text goes on, provided that a few characters are
there behind it (`Token.lookahead`): three behind a number, one behind any other token. Each of the
tokens that follow has at least one character, so text added at the end can change the last three
tokens and none before them (`tokens_append_settled`).
-/

namespace ShaderLens

/-- How many characters behind a token settle where it ends. -/
def Token.lookahead (token : Token) : Nat :=
  if token.kind = .number then 3 else 1

theorem Token.lookahead_pos (token : Token) : 1 ≤ token.lookahead := by
  unfold lookahead
  split <;> omega

theorem Token.lookahead_le (token : Token) : token.lookahead ≤ 3 := by
  unfold lookahead
  split <;> omega

namespace Rule

open Form

variable {rule : Rule} {t : Text} {token : Token}

/-- Numbers apart, a rule goes by the next character, or else does not look ahead. -/
theorem lookahead_cases (member : rule ∈ all) :
    rule = number ∨ rule.reach = .untilClosed ∨
      rule.reach = .longest ∧ rule.form.GrowsWithin 1 := by
  simp only [all, List.mem_cons, List.not_mem_nil, or_false] at member
  obtain rfl | rfl | rfl | rfl | rfl | rfl | rfl | rfl | rfl | rfl | rfl := member
  · exact .inr (.inl rfl)
  · exact .inr (.inr ⟨rfl, growsWithin_many⟩)
  · exact .inr (.inl rfl)
  · exact .inr (.inr ⟨rfl, growsWithin_many⟩)
  · exact .inl rfl
  · exact .inr (.inr ⟨rfl, growsWithin_many⟩)
  · exact .inr (.inr ⟨rfl, growsWithin_many⟩)
  · exact .inr (.inr ⟨rfl, (growsWithin_one.perhaps beginsWithin_one).cons⟩)
  · exact .inr (.inr ⟨rfl, growsWithin_one⟩)
  · exact .inr (.inr ⟨rfl, growsWithin_one⟩)
  · exact .inr (.inr ⟨rfl, growsWithin_one⟩)

theorem Gives.append (member : rule ∈ all) (gives : rule.Gives t token)
    (room : token.text.length + token.lookahead ≤ t.length) (more : Text) :
    rule.Gives (t ++ more) token := by
  have positive := token.lookahead_pos
  refine ⟨?_, gives.2⟩
  have takes := gives.1
  obtain rfl | reach | ⟨reach, grows⟩ := lookahead_cases member
  · have three : token.lookahead = 3 := by
      rw [Token.lookahead, gives.2]
      rfl
    exact Longest.append growsWithin_numeral takes (by omega) more
  · rw [reach] at takes ⊢
    refine UntilClosed.append takes ?_ more
    intro same
    rw [same] at room
    omega
  · rw [reach] at takes ⊢
    exact Longest.append grows takes (by omega) more

/-- More text makes no difference to which rules are for it, a lone slash excepted. -/
theorem opens_append_iff (member : rule ∈ all) (nonempty : t ≠ []) (slash : t ≠ ['/'])
    (more : Text) : rule.opens (t ++ more) ↔ rule.opens t := by
  refine ⟨fun opens => ?_, opens_mono member (List.prefix_append t more)⟩
  obtain ⟨c, rest, rfl⟩ := List.exists_cons_of_ne_nil nonempty
  have pair (d : Char) (begins : ['/', d] <+: c :: rest ++ more) : ['/', d] <+: c :: rest := by
    obtain ⟨rfl, second⟩ : c = '/' ∧ (rest ++ more).head? = some d := pair_prefix_cons.1 begins
    have further : rest ≠ [] := by
      rintro rfl
      exact slash rfl
    rw [List.head?_append_of_ne_nil rest further] at second
    exact pair_prefix_cons.2 ⟨rfl, second⟩
  obtain rfl | rfl | ⟨p, same⟩ := opens_cases member
  · exact pair '*' opens
  · exact pair '/' opens
  · rw [same] at opens ⊢
    exact opens

end Rule

namespace Text

open Rule

variable {s t u : Text} {k : Nat} {token other : Token} {later later' : List Token}

/-- The rule that decides the first token of a text decides that of the longer text too. -/
theorem exists_rule_append (slash : t ≠ ['/']) (h : t.tokens = token :: later)
    (h' : (t ++ u).tokens = other :: later') :
    ∃ rule ∈ Rule.all, rule.Gives t token ∧ rule.Gives (t ++ u) other := by
  have nonempty : t ≠ [] := by
    rintro rfl
    simp at h
  exact (decides_of_tokens h).exists_rule (decides_of_tokens h')
    (fun rule member opens _ => (opens_append_iff member nonempty slash u).2 opens)
    (fun rule member => (opens_append_iff member nonempty slash u).1)

/-- The first token stays the first one when more text follows, if no rule that gives it gives
another one then. -/
theorem tokens_append_of_gives (slash : t ≠ ['/']) (h : t.tokens = token :: later)
    (stays : ∀ rule ∈ Rule.all, rule.Gives t token →
      ∀ other, rule.Gives (t ++ u) other → other = token) :
    (t ++ u).tokens = token :: tokens ((t ++ u).drop token.text.length) := by
  have left : (t ++ u).tokens ≠ [] := by
    rw [Ne, tokens_eq_nil_iff, List.append_eq_nil_iff]
    rintro ⟨rfl, _⟩
    simp at h
  obtain ⟨first, rest, first_eq⟩ := List.exists_cons_of_ne_nil left
  obtain ⟨rule, member, gives, gives'⟩ := exists_rule_append slash h first_eq
  obtain rfl := stays rule member gives first gives'
  exact tokens_of_decides (decides_of_tokens first_eq)

/-- A token with enough text behind it is still the first one when more text follows. -/
theorem tokens_append_of_room (h : t.tokens = token :: later)
    (room : token.text.length + token.lookahead ≤ t.length) :
    (t ++ u).tokens = token :: tokens ((t ++ u).drop token.text.length) := by
  have positive := token.lookahead_pos
  have longer := List.length_pos_iff.2 (text_ne_nil_of_mem_tokens (h ▸ List.mem_cons_self))
  have slash : t ≠ ['/'] := by
    rintro rfl
    simp only [List.length_cons, List.length_nil] at room
    omega
  apply tokens_append_of_gives slash h
  intro rule member gives other gives'
  exact gives'.unique (gives.append member room u)

theorem drop_first_append (c : Char) (rest u : Text) :
    (c :: rest ++ u).drop (Token.first c rest).1.text.length = (Token.first c rest).2 ++ u := by
  rw [← Token.first_append c rest, List.append_assoc, List.drop_left]

theorem length_tokens_le (t : Text) : t.tokens.length ≤ t.length := by
  induction t using tokens.induct with
  | case1 => simp
  | case2 c rest ih =>
      have shorter := Token.length_first_rest_le c rest
      rw [tokens_cons, List.length_cons, List.length_cons]
      omega

/-- Behind the first tokens the longer text has what the shorter one has, and what was added. -/
theorem after_append (before : (s ++ u).tokens.take k = s.tokens.take k) :
    (s ++ u).after k = s.after k ++ u := by
  have whole : Token.join (s.tokens.take k) ++ (s ++ u).after k =
      Token.join (s.tokens.take k) ++ (s.after k ++ u) := calc
    _ = s ++ u := by rw [← before, join_take_append_after]
    _ = _ := by rw [← List.append_assoc, join_take_append_after]
  exact List.append_cancel_left whole

/-- If the tokens before it are the same, so is a token with enough text behind it. -/
theorem getElem?_tokens_append (before : (s ++ u).tokens.take k = s.tokens.take k)
    (here : s.tokens[k]? = some token) (room : token.lookahead ≤ (s.after (k + 1)).length) :
    (s ++ u).tokens[k]? = some token := by
  have split : (s.after k).tokens = token :: s.tokens.drop (k + 1) := by
    rw [tokens_after]
    obtain ⟨bound, rfl⟩ := List.getElem?_eq_some_iff.1 here
    exact List.drop_eq_getElem_cons bound
  have parts : s.after k = token.text ++ s.after (k + 1) := by
    rw [← join_tokens (s.after k), split, Token.join_cons, after_eq_join_drop s (k + 1)]
  have enough : token.text.length + token.lookahead ≤ (s.after k).length := by
    rw [parts, List.length_append]
    omega
  rw [← List.head?_drop, ← tokens_after, after_append before, tokens_append_of_room split enough]
  rfl

theorem length_tokens_sub_le_length_after (s : Text) (k : Nat) :
    s.tokens.length - k ≤ (s.after k).length := by
  rw [← List.length_drop, ← tokens_after]
  exact length_tokens_le (s.after k)

theorem take_tokens_append (u : Text) (room : k + 3 ≤ s.tokens.length) :
    (s ++ u).tokens.take k = s.tokens.take k := by
  induction k with
  | zero => simp
  | succ k ih =>
      have before := ih (by omega)
      have here : s.tokens[k]? = some s.tokens[k] := List.getElem?_eq_getElem (by omega)
      have behind := length_tokens_sub_le_length_after s (k + 1)
      have reach := s.tokens[k].lookahead_le
      have same := getElem?_tokens_append before here (by omega)
      rw [List.take_add_one, List.take_add_one, before, same, here]

end Text

/-- **More text changes the last three tokens at most.** The tokens before them are the first ones
of any longer text. Of the last three, one that is not a number keeps its place and its kind as long
as it is not the very last and those before it are unchanged. -/
theorem tokens_append_settled (s u : Text) :
    (s ++ u).tokens.take (s.tokens.length - 3) = s.tokens.take (s.tokens.length - 3) ∧
    ∀ k token, s.tokens[k]? = some token → token.kind ≠ .number → k + 1 < s.tokens.length →
      (s ++ u).tokens.take k = s.tokens.take k → (s ++ u).tokens[k]? = some token := by
  constructor
  · by_cases few : s.tokens.length ≤ 3
    · rw [Nat.sub_eq_zero_of_le few]
      simp
    · exact Text.take_tokens_append u (by omega)
  · intro k token here kind notLast before
    have one : token.lookahead = 1 := if_neg kind
    have behind := Text.length_tokens_sub_le_length_after s (k + 1)
    exact Text.getElem?_tokens_append before here (by omega)

/-- The sign in `1e+x` is one of the last three tokens, with a number before it, and it stays when
the name behind it grows. -/
theorem sign_settled_before_name :
    let s := "1e+x".toList
    let u := "y".toList
    let sign : Token := ⟨.operator, "+".toList⟩
    (Text.tokens s).length = 4 ∧
      (Text.tokens s)[2]? = some sign ∧ sign.kind ≠ .number ∧ 2 + 1 < (Text.tokens s).length ∧
      (Text.tokens (s ++ u)).take 2 = (Text.tokens s).take 2 ∧
      (Text.tokens (s ++ u))[2]? = some sign := by
  intro s u sign
  have here : (Text.tokens s)[2]? = some sign := by decide +kernel
  have four : (Text.tokens s).length = 4 := by decide +kernel
  have notLast : 2 + 1 < (Text.tokens s).length := by rw [four]; decide
  have before : (Text.tokens (s ++ u)).take 2 = (Text.tokens s).take 2 := by decide +kernel
  have solid : sign.kind ≠ .number := by decide
  exact ⟨four, here, solid, notLast, before,
    (tokens_append_settled s u).2 2 sign here solid notLast before⟩

/-- All of the last three can change at once. -/
example : (Text.tokens "2e+".toList).length = 3 ∧
    Text.tokens ("2e+".toList ++ "5".toList) = [⟨.number, "2e+5".toList⟩] := by
  decide +kernel

end ShaderLens
