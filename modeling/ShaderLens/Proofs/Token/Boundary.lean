import ShaderLens.Proofs.Token.Lookahead
import ShaderLens.Proofs.Token.Rule

/-!
# Texts that end between two tokens

A token stays what it is when the text behind it is cut off, anywhere at or after its end
(`tokens_of_front`): the rule that decides it is for the shorter text too, and no rule before it has
become so. Therefore a text falls apart at the places between its tokens (`tokens_apart`).
-/

namespace ShaderLens

namespace Rule

variable {rule : Rule} {rules : List Rule} {t u : Text} {token other : Token}

/-- Comments are told by two characters, all else by the first one. -/
theorem opens_cases (member : rule ∈ all) :
    rule = blockComment ∨ rule = lineComment ∨ ∃ p, rule.opens = startsWith p := by
  simp only [all, List.mem_cons, List.not_mem_nil, or_false] at member
  obtain rfl | rfl | rest := member
  · exact .inl rfl
  · exact .inr (.inl rfl)
  · right
    right
    obtain rfl | rfl | rfl | rfl | rfl | rfl | rfl | rfl | rfl := rest <;> exact ⟨_, rfl⟩

theorem opens_mono (member : rule ∈ all) (inside : u <+: t) (h : rule.opens u) :
    rule.opens t := by
  obtain rfl | rfl | ⟨p, same⟩ := opens_cases member
  · exact List.IsPrefix.trans h inside
  · exact List.IsPrefix.trans h inside
  · rw [same] at h ⊢
    obtain ⟨c, isHead, holds⟩ := h
    obtain ⟨more, rfl⟩ := inside
    exact ⟨c, List.mem_head?_append_of_mem_head? isHead, holds⟩

/-- A comment has the two characters that tell it. -/
theorem blockComment_begins (gives : blockComment.Gives t token) (opens : ['/', '*'] <+: t) :
    ['/', '*'] <+: token.text := by
  obtain ⟨_, member, _⟩ | ⟨same, _⟩ := gives.1
  · obtain ⟨body, _, same⟩ := Form.mem_between.1 member
    exact ⟨body ++ ['*', '/'], by rw [same, List.append_assoc]⟩
  · rwa [same]

theorem lineComment_begins (gives : lineComment.Gives t token) (opens : ['/', '/'] <+: t) :
    ['/', '/'] <+: token.text := by
  obtain ⟨isFront, _, longest⟩ := gives.1
  have plain : ['/', '/'] ∈ lineComment.form := by
    intro c inside
    simp at inside
    simp [inside]
  exact List.prefix_of_prefix_length_le opens isFront (longest _ opens plain)

/-- The rule of a token is for every text that begins with the token. -/
theorem opens_of_gives (member : rule ∈ all) (opens : rule.opens t) (gives : rule.Gives t token)
    (nonempty : token.text ≠ []) (isFront : token.text <+: u) (inside : u <+: t) :
    rule.opens u := by
  obtain rfl | rfl | ⟨p, same⟩ := opens_cases member
  · exact (blockComment_begins gives opens).trans isFront
  · exact (lineComment_begins gives opens).trans isFront
  · rw [same] at opens ⊢
    obtain ⟨more, rfl⟩ := inside
    obtain ⟨c, rest, rfl⟩ := List.exists_cons_of_ne_nil (isFront.ne_nil nonempty)
    exact opens

theorem Gives.shorten (gives : rule.Gives t token) (isFront : token.text <+: u)
    (inside : u <+: t) : rule.Gives u token := by
  refine ⟨?_, gives.2⟩
  have takes := gives.1
  cases reach : rule.reach with
  | longest =>
      rw [reach] at takes
      exact Longest.shorten takes isFront inside
  | untilClosed =>
      rw [reach] at takes
      exact UntilClosed.shorten takes isFront inside

/-- One rule decides both texts if it is for both of them and no rule before it is for one only. -/
theorem Decides.exists_rule (h : Decides rules t token) (h' : Decides rules u other)
    (forth : ∀ rule ∈ rules, rule.opens t → rule.Gives t token → rule.opens u)
    (back : ∀ rule ∈ rules, rule.opens u → rule.opens t) :
    ∃ rule ∈ rules, rule.Gives t token ∧ rule.Gives u other := by
  induction rules with
  | nil => exact h.elim
  | cons rule later ih =>
      obtain ⟨opens, gives⟩ | ⟨closed, decides⟩ := h
      · obtain ⟨_, gives'⟩ | ⟨closed', _⟩ := h'
        · exact ⟨rule, List.mem_cons_self, gives, gives'⟩
        · exact absurd (forth rule List.mem_cons_self opens gives) closed'
      · obtain ⟨opens', _⟩ | ⟨_, decides'⟩ := h'
        · exact absurd (back rule List.mem_cons_self opens') closed
        · obtain ⟨found, member, both⟩ := ih decides decides'
            (fun rule member => forth rule (List.mem_cons_of_mem _ member))
            (fun rule member => back rule (List.mem_cons_of_mem _ member))
          exact ⟨found, List.mem_cons_of_mem _ member, both⟩

end Rule

namespace Text

open Rule

variable {t u : Text} {token : Token} {later : List Token}

theorem decides_of_tokens (h : t.tokens = token :: later) : Decides Rule.all t token := by
  cases t with
  | nil => simp at h
  | cons c rest =>
      rw [tokens_cons] at h
      obtain ⟨rfl, _⟩ := List.cons.inj h
      exact Opening.decides_first c rest

theorem tokens_of_decides (h : Decides Rule.all t token) :
    t.tokens = token :: tokens (t.drop token.text.length) := by
  cases t with
  | nil => exact absurd h not_decides_nil
  | cons c rest =>
      obtain rfl := h.unique (Opening.decides_first c rest)
      have cut := Token.first_append c rest
      rw [tokens_cons, ← cut, List.drop_left]

/-- A token is still the first one when text behind it is cut off. -/
theorem tokens_of_front (h : t.tokens = token :: later) (isFront : token.text <+: u)
    (inside : u <+: t) : u.tokens = token :: tokens (u.drop token.text.length) := by
  have nonempty : token.text ≠ [] := text_ne_nil_of_mem_tokens (h ▸ List.mem_cons_self)
  have left : u.tokens ≠ [] := (tokens_eq_nil_iff u).not.2 (isFront.ne_nil nonempty)
  obtain ⟨first, rest, first_eq⟩ := List.exists_cons_of_ne_nil left
  have whole := decides_of_tokens h
  have short := decides_of_tokens first_eq
  obtain ⟨rule, member, gives, gives'⟩ := whole.exists_rule short
    (fun rule member opens gives => opens_of_gives member opens gives nonempty isFront inside)
    (fun rule member => opens_mono member inside)
  obtain rfl := gives'.unique (gives.shorten isFront inside)
  exact tokens_of_decides short

theorem join_take_isFront (t : Text) (k : Nat) : Token.join (t.tokens.take k) <+: t :=
  ⟨t.after k, join_take_append_after t k⟩

/-- The text of the first tokens has these tokens and no others. -/
theorem tokens_join_take (t : Text) (k : Nat) :
    tokens (Token.join (t.tokens.take k)) = t.tokens.take k := by
  induction t using tokens.induct generalizing k with
  | case1 => simp
  | case2 c rest ih =>
      cases k with
      | zero => simp
      | succ k =>
          have inside : (Token.first c rest).1.text ++
              Token.join ((tokens (Token.first c rest).2).take k) <+: c :: rest := by
            rw [← Token.first_append c rest, List.prefix_append_right_inj]
            exact join_take_isFront _ k
          rw [tokens_cons, List.take_succ_cons, Token.join_cons,
            tokens_of_front (tokens_cons c rest) (List.prefix_append _ _) inside, List.drop_left,
            ih k]

/-- The text of any tokens in a row has just these tokens. -/
theorem tokens_join_extract (t : Text) (i k : Nat) :
    tokens (Token.join ((t.tokens.drop i).take k)) = (t.tokens.drop i).take k := by
  rw [← tokens_after, tokens_join_take]

end Text

/-- **A text falls apart between its tokens.** Wherever a token ends, the text in front has the
tokens that are in front and the text behind has the tokens that are behind. Each token's text alone
has that token alone, of the same kind. -/
theorem tokens_apart (s : Text) :
    (∀ k, let front := Token.join (s.tokens.take k)
      front ++ s.after k = s ∧
      front.tokens = s.tokens.take k ∧ (s.after k).tokens = s.tokens.drop k) ∧
    s.tokens.map (fun token => Text.tokens token.text) = s.tokens.map fun token => [token] := by
  constructor
  · intro k
    exact ⟨Text.join_take_append_after s k, Text.tokens_join_take s k, Text.tokens_after s k⟩
  · apply List.map_congr_left
    intro token member
    obtain ⟨i, bound, rfl⟩ := List.mem_iff_getElem.1 member
    have alone := Text.tokens_join_extract s i 1
    have here : (s.tokens.drop i).take 1 = [s.tokens[i]] := by
      rw [List.take_one, List.head?_drop, List.getElem?_eq_getElem bound]
      rfl
    rwa [here, Token.join_cons, Token.join_nil, List.append_nil] at alone

end ShaderLens
