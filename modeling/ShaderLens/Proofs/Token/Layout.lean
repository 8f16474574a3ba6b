import Mathlib.Data.List.Chain
import ShaderLens.Proofs.Token.Partition

/-!
# Layouts

A layout is words, which are tokens other than whitespace, with blank text between them. Every list
of tokens has one. Two lists have the same layout iff they are equal once whitespace without text is
dropped and adjacent whitespace is merged (`normal_eq_iff`). Lexing leaves nothing to drop or to
merge (`normal_tokens`).
-/

namespace ShaderLens

namespace Token

/-- Puts a token in front. Whitespace becomes one token with the whitespace that follows it. -/
def prepend (token : Token) : List Token → List Token
  | [] => [token]
  | next :: later =>
      if token.kind = .whitespace ∧ next.kind = .whitespace then
        ⟨.whitespace, token.text ++ next.text⟩ :: later
      else token :: next :: later

/-- Makes each run of adjacent whitespace one token. -/
def mergeWhitespace (tokens : List Token) : List Token :=
  tokens.foldr prepend []

def dropEmptyWhitespace (tokens : List Token) : List Token :=
  tokens.filter fun token => ¬(token.kind = .whitespace ∧ token.text = [])

def normal (tokens : List Token) : List Token :=
  mergeWhitespace (dropEmptyWhitespace tokens)

/-- Not whitespace next to whitespace. -/
def Separate (token next : Token) : Prop :=
  ¬(token.kind = .whitespace ∧ next.kind = .whitespace)

theorem mergeWhitespace_of_isChain {tokens : List Token} (apart : tokens.IsChain Separate) :
    mergeWhitespace tokens = tokens := by
  induction tokens with
  | nil => rfl
  | cons token rest ih =>
      rw [List.isChain_cons] at apart
      change token.prepend (mergeWhitespace rest) = token :: rest
      rw [ih apart.2]
      cases rest with
      | nil => rfl
      | cons next later => exact if_neg (apart.1 next rfl)

end Token

def Word := {token : Token // token.kind ≠ .whitespace}

/-- Words, each with the blank text behind it. The blank text in front of the first one leads. -/
structure Layout where
  lead : Text
  items : List (Word × Text)

namespace Layout

def words (layout : Layout) : List Token :=
  layout.items.map (·.1.val)

/-- Puts a token in front of a layout. -/
def prepend (token : Token) (layout : Layout) : Layout :=
  if blank : token.kind = .whitespace then ⟨token.text ++ layout.lead, layout.items⟩
  else ⟨[], (⟨token, blank⟩, layout.lead) :: layout.items⟩

def ofTokens (tokens : List Token) : Layout :=
  tokens.foldr prepend ⟨[], []⟩

/-- Blank text is a token only where there is some. -/
def whitespace (text : Text) : List Token :=
  if text = [] then [] else [⟨.whitespace, text⟩]

def itemTokens (items : List (Word × Text)) : List Token :=
  items.flatMap fun item => item.1.val :: whitespace item.2

def tokens (layout : Layout) : List Token :=
  whitespace layout.lead ++ itemTokens layout.items

theorem ofTokens_cons (token : Token) (rest : List Token) :
    ofTokens (token :: rest) = prepend token (ofTokens rest) := rfl

theorem prepend_whitespace {token : Token} (blank : token.kind = .whitespace) (layout : Layout) :
    prepend token layout = ⟨token.text ++ layout.lead, layout.items⟩ := by
  rw [prepend, dif_pos blank]

theorem prepend_word {token : Token} (solid : token.kind ≠ .whitespace) (layout : Layout) :
    prepend token layout = ⟨[], (⟨token, solid⟩, layout.lead) :: layout.items⟩ := by
  rw [prepend, dif_neg solid]

theorem words_ofTokens (tokens : List Token) :
    (ofTokens tokens).words = tokens.filter (·.kind ≠ .whitespace) := by
  induction tokens with
  | nil => rfl
  | cons token rest ih =>
      by_cases blank : token.kind = .whitespace
      · rw [List.filter_cons_of_neg (by simp [blank]), ← ih, ofTokens_cons,
          prepend_whitespace blank]
        rfl
      · rw [List.filter_cons_of_pos (by simp [blank]), ← ih, ofTokens_cons, prepend_word blank]
        rfl

theorem ofTokens_whitespace_append (text : Text) (rest : List Token) :
    ofTokens (whitespace text ++ rest) = ⟨text ++ (ofTokens rest).lead, (ofTokens rest).items⟩ := by
  unfold whitespace
  split
  · next empty => simp [empty]
  · have blank : (Token.mk .whitespace text).kind = .whitespace := rfl
    exact prepend_whitespace blank (ofTokens rest)

theorem ofTokens_itemTokens (items : List (Word × Text)) :
    ofTokens (itemTokens items) = ⟨[], items⟩ := by
  induction items with
  | nil => rfl
  | cons item more ih =>
      obtain ⟨⟨token, solid⟩, text⟩ := item
      change prepend token (ofTokens (whitespace text ++ itemTokens more)) = _
      rw [prepend_word solid, ofTokens_whitespace_append, ih, List.append_nil]

/-- No layout is lost in its tokens. -/
theorem ofTokens_tokens (layout : Layout) : ofTokens layout.tokens = layout := by
  rw [tokens, ofTokens_whitespace_append, ofTokens_itemTokens, List.append_nil]

theorem prepend_empty {token : Token} (blank : token.kind = .whitespace) (empty : token.text = [])
    (layout : Layout) : prepend token layout = layout := by
  rw [prepend_whitespace blank, empty, List.nil_append]

theorem tokenPrepend_itemTokens (token : Token) (items : List (Word × Text)) :
    token.prepend (itemTokens items) = token :: itemTokens items := by
  cases items with
  | nil => rfl
  | cons item more => exact if_neg fun both => item.1.property both.2

/-- To put a token that is not dropped in front is the same before and after spelling out. -/
theorem tokens_prepend {token : Token} (shown : ¬(token.kind = .whitespace ∧ token.text = []))
    (layout : Layout) : (prepend token layout).tokens = token.prepend layout.tokens := by
  obtain ⟨kind, text⟩ := token
  obtain ⟨lead, items⟩ := layout
  by_cases blank : kind = .whitespace
  · subst blank
    have nonempty : text ≠ [] := fun empty => shown ⟨rfl, empty⟩
    rw [prepend_whitespace rfl]
    by_cases empty : lead = []
    · simp [tokens, whitespace, empty, nonempty, tokenPrepend_itemTokens]
    · simp [tokens, whitespace, empty, nonempty, Token.prepend]
  · rw [prepend_word blank]
    by_cases empty : lead = []
    · subst empty
      exact (tokenPrepend_itemTokens _ items).symm
    · simp [tokens, whitespace, empty, blank, Token.prepend, itemTokens]

/-- The normal form of a list of tokens spells out its layout. -/
theorem normal_eq (tokens : List Token) : Token.normal tokens = (ofTokens tokens).tokens := by
  induction tokens with
  | nil => rfl
  | cons token rest ih =>
      rw [ofTokens_cons]
      by_cases hidden : token.kind = .whitespace ∧ token.text = []
      · rw [prepend_empty hidden.1 hidden.2, ← ih, Token.normal, Token.dropEmptyWhitespace,
          List.filter_cons_of_neg (by simp [hidden])]
        rfl
      · rw [tokens_prepend hidden, ← ih, Token.normal, Token.dropEmptyWhitespace,
          List.filter_cons_of_pos (by simp only [hidden, not_false_eq_true, decide_true])]
        rfl

theorem normal_eq_iff {a b : List Token} :
    Token.normal a = Token.normal b ↔ ofTokens a = ofTokens b := by
  rw [normal_eq, normal_eq]
  constructor
  · intro same
    rw [← ofTokens_tokens (ofTokens a), same, ofTokens_tokens]
  · exact congrArg tokens

end Layout

theorem Vocabulary.kindOf_ne_whitespace (word : Text) : kindOf word ≠ .whitespace := by
  grind [kindOf]

namespace Opening

theorem kind_eq_whitespace {opening : Opening} {lexeme : Text}
    (h : opening.kind lexeme = .whitespace) : opening = blank := by
  cases opening with
  | blank => rfl
  | word => exact absurd h (Vocabulary.kindOf_ne_whitespace lexeme)
  | blockComment | lineComment | quote | directive | digit | operator | choice | punctuation
  | stray => cases h

theorem isBlank_of_eq_blank {c : Char} {rest : Text} (h : of c rest = blank) : isBlank c := by
  grind [of]

end Opening

namespace Token

theorem isBlank_of_first {c : Char} {rest : Text} (h : (first c rest).1.kind = .whitespace) :
    isBlank c :=
  Opening.isBlank_of_eq_blank (Opening.kind_eq_whitespace h)

/-- Whitespace goes on to the last blank character. -/
theorem first_rest_of_whitespace {c : Char} {rest : Text}
    (h : (first c rest).1.kind = .whitespace) : (first c rest).2 = rest.dropWhile isBlank := by
  have opening : Opening.of c rest = .blank := Opening.kind_eq_whitespace h
  simp [first, opening, Opening.tail, Cut.run]

end Token

namespace Text

theorem kind_ne_whitespace_of_dropWhile (t : Text) :
    ∀ next ∈ (tokens (t.dropWhile isBlank)).head?, next.kind ≠ .whitespace := by
  intro next isHead blank
  cases behind : t.dropWhile isBlank with
  | nil => simp [behind] at isHead
  | cons c rest =>
      rw [behind, tokens_cons, List.head?_cons, Option.mem_some] at isHead
      subst isHead
      have solid := List.head?_dropWhile_not isBlank t
      rw [behind, List.head?_cons] at solid
      simp [Token.isBlank_of_first blank] at solid

/-- No whitespace stands next to whitespace. -/
theorem isChain_tokens (t : Text) : t.tokens.IsChain Token.Separate := by
  induction t using tokens.induct with
  | case1 => simp
  | case2 c rest ih =>
      rw [tokens_cons, List.isChain_cons]
      refine ⟨fun next isHead both => ?_, ih⟩
      rw [Token.first_rest_of_whitespace both.1] at isHead
      exact kind_ne_whitespace_of_dropWhile rest next isHead both.2

/-- The tokens of a text are in normal form. -/
theorem normal_tokens (t : Text) : Token.normal t.tokens = t.tokens := by
  have shown : Token.dropEmptyWhitespace t.tokens = t.tokens := by
    apply List.filter_eq_self.2
    intro token member
    have nonempty := text_ne_nil_of_mem_tokens member
    simp [nonempty]
  rw [Token.normal, shown, Token.mergeWhitespace_of_isChain (isChain_tokens t)]

end Text

end ShaderLens
