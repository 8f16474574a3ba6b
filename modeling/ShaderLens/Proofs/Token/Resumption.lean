import Mathlib.Data.List.TakeWhile
import ShaderLens.Proofs.Token.Layout
import ShaderLens.Proofs.Token.LineFeed

/-!
# Lexing anew behind whitespace

Where the last token of a text is whitespace, what comes behind has the tokens that it has by itself
(`tokens_resume_after_whitespace`). No token in front of that whitespace can pass it by, not even a
number, which looks three characters ahead. Either its form has no blanks at all, or it would have
taken those of the shorter text already, or it is closed by a mark of its own (`Rule.blank_cases`).
-/

namespace ShaderLens

/-- No visible character of ASCII is blank. -/
theorem not_isBlank_of_visible {c : Char} (low : '!' ≤ c) (high : c ≤ '~') : ¬ isBlank c := by
  have low' : 33 ≤ c.toNat := UInt32.le_iff_toNat_le.1 low
  have high' : c.toNat ≤ 126 := UInt32.le_iff_toNat_le.1 high
  have outside : ∀ r ∈ blankRanges.bounds, r.2 < 33 ∨ 126 < r.1 := by decide
  intro blank
  obtain ⟨r, member, above, below⟩ := (blankRanges.has_iff c.toNat).1 blank
  have apart := outside r member
  omega

theorem not_isBlank_of_isAlphanum {c : Char} (h : c.isAlphanum) : ¬ isBlank c := by
  delta Char.isAlphanum Char.isAlpha Char.isUpper Char.isLower Char.isDigit at h
  simp only [Bool.or_eq_true, Bool.and_eq_true, decide_eq_true_eq] at h
  obtain (⟨low, high⟩ | ⟨low, high⟩) | ⟨low, high⟩ := h
  · exact not_isBlank_of_visible (Char.le_trans (by decide) low) (Char.le_trans high (by decide))
  · exact not_isBlank_of_visible (Char.le_trans (by decide) low) (Char.le_trans high (by decide))
  · exact not_isBlank_of_visible (Char.le_trans (by decide) low) (Char.le_trans high (by decide))

theorem not_isBlank_of_mem {solid : Text} (checked : solid.all (!isBlank ·)) {c : Char}
    (member : c ∈ solid) : ¬ isBlank c := by
  simpa using List.all_eq_true.1 checked c member

namespace Form

theorem blankless_numeral : MadeOf (¬ isBlank ·) numeral := by
  apply madeOf_numeral
  · intro c digit
    exact not_isBlank_of_isAlphanum (by simp [Char.isAlphanum, digit])
  · intro c mark
    exact not_isBlank_of_mem (by decide) mark

theorem blankless_operator : MadeOf (¬ isBlank ·) Rule.operator.form := by
  refine Rule.madeOf_operator.mono ?_
  rintro c (combines | rfl)
  · exact not_isBlank_of_mem (by decide) combines
  · decide

end Form

namespace Rule

open Form

variable {rule : Rule} {t u : Text} {a b : Token}

theorem blank_cases (member : rule ∈ all) :
    rule.reach = .untilClosed ∨
      rule.reach = .longest ∧ (rule.form.Frontal ∨ rule.form.MadeOf (¬ isBlank ·)) := by
  simp only [all, List.mem_cons, List.not_mem_nil, or_false] at member
  obtain rfl | rfl | rfl | rfl | rfl | rfl | rfl | rfl | rfl | rfl | rfl := member
  · exact .inl rfl
  · exact .inr ⟨rfl, .inl frontal_many⟩
  · exact .inl rfl
  · exact .inr ⟨rfl, .inl frontal_many⟩
  · exact .inr ⟨rfl, .inr blankless_numeral⟩
  · exact .inr ⟨rfl, .inl frontal_many⟩
  · exact .inr ⟨rfl, .inl frontal_many⟩
  · exact .inr ⟨rfl, .inr blankless_operator⟩
  · exact .inr ⟨rfl, .inl frontal_one⟩
  · exact .inr ⟨rfl, .inl frontal_one⟩
  · exact .inr ⟨rfl, .inl frontal_one⟩

/-- A token that leaves some of a text with a blank behind stays as it is when the text goes on. -/
theorem Gives.of_blank {c : Char} (member : rule ∈ all) (ha : rule.Gives t a)
    (hb : rule.Gives (t ++ u) b) (left : a.text ≠ t) (inside : c ∈ t) (blank : isBlank c) :
    b = a := by
  have takes := ha.1
  have takes' := hb.1
  apply hb.eq_of_text ha
  obtain reach | ⟨reach, shape⟩ := blank_cases member
  · rw [reach] at takes takes'
    obtain same | ⟨all, _⟩ := UntilClosed.eq_or_passed takes takes'
    · exact same
    · exact absurd all left
  · rw [reach] at takes takes'
    obtain same | passed := Longest.eq_or_passed takes takes'
    · exact same
    · obtain frontal | blankless := shape
      · have whole := frontal _ takes'.2.1 t passed (List.ne_nil_of_mem inside)
        have long := takes.2.2 t List.prefix_rfl whole
        exact absurd (takes.1.eq_of_length_le long) left
      · exact absurd blank (blankless _ takes'.2.1 c (passed.subset inside))

end Rule

theorem Opening.of_blank {c : Char} (h : isBlank c) (rest : Text) : of c rest = blank := by
  have letter : ¬ c.isAlphanum := fun alphanum => not_isBlank_of_isAlphanum alphanum h
  have sign : c ∉ ['/', '"', '#', '_'] := by
    intro member
    exact not_isBlank_of_mem (by decide) member h
  grind [of, startsWord, Char.isAlphanum]

namespace Text

variable {t u : Text} {token : Token} {c : Char}

/-- A token with a blank anywhere behind it stays the first one when more text follows. -/
theorem tokens_append_of_blank {rest : Text} (h : t.tokens = token :: rest.tokens)
    (inside : c ∈ rest) (blank : isBlank c) :
    (t ++ u).tokens = token :: tokens ((t ++ u).drop token.text.length) := by
  have text : token.text ++ rest = t := by
    rw [← join_tokens t, h, Token.join_cons, join_tokens]
  have within : c ∈ t := text ▸ List.mem_append_right _ inside
  have slash : t ≠ ['/'] := by
    rintro rfl
    obtain rfl := List.mem_singleton.1 within
    revert blank
    decide
  have left : token.text ≠ t := by
    intro all
    rw [← text, List.self_eq_append_right] at all
    exact absurd all (List.ne_nil_of_mem inside)
  apply tokens_append_of_gives slash h
  intro rule member gives other gives'
  exact gives.of_blank member gives' left within blank

theorem exists_blank_of_whitespace (member : token ∈ t.tokens) (kind : token.kind = .whitespace) :
    ∃ c ∈ t, isBlank c := by
  induction t using tokens.induct with
  | case1 => simp at member
  | case2 c rest ih =>
      rw [tokens_cons, List.mem_cons] at member
      obtain rfl | later := member
      · exact ⟨c, List.mem_cons_self, Token.isBlank_of_first kind⟩
      · obtain ⟨d, inside, blank⟩ := ih later
        refine ⟨d, ?_, blank⟩
        rw [← Token.first_append c rest]
        exact List.mem_append_right _ inside

/-- Whitespace reaches no further when solid text follows. -/
theorem tokens_append_of_whitespace (all : t.tokens = [token]) (kind : token.kind = .whitespace)
    (solid : ∀ c ∈ u.head?, ¬ isBlank c) : (t ++ u).tokens = token :: u.tokens := by
  cases t with
  | nil => simp at all
  | cons c rest =>
      rw [tokens_cons, List.cons.injEq, tokens_eq_nil_iff] at all
      obtain ⟨rfl, nothing⟩ := all
      have opening (more : Text) := Opening.of_blank (Token.isBlank_of_first kind) more
      have blanks : ∀ d ∈ rest, isBlank d := by
        rwa [Token.first_rest_of_whitespace kind, List.dropWhile_eq_nil_iff] at nothing
      have stop : u.takeWhile isBlank = [] ∧ u.dropWhile isBlank = u := by
        cases u with
        | nil => exact ⟨rfl, rfl⟩
        | cons d more =>
            have first : ¬ isBlank d := solid d rfl
            exact ⟨List.takeWhile_cons_of_neg first, List.dropWhile_cons_of_neg first⟩
      rw [List.cons_append, tokens_cons]
      simp only [Token.first, opening, Opening.tail, Cut.run]
      rw [List.takeWhile_append_of_pos blanks, List.dropWhile_append_of_pos blanks, stop.1, stop.2,
        List.append_nil, List.takeWhile_eq_self_iff.2 blanks]

end Text

/-- **Lexing can begin anew behind whitespace.** If the last token of a text is whitespace and no
blank follows, then the whole has the tokens of the text and, behind them, those that the rest has
by itself. -/
theorem tokens_resume_after_whitespace (a b : Text)
    (whitespace : a.tokens.getLast?.map Token.kind = some .whitespace)
    (solid : ∀ c ∈ b.head?, ¬ isBlank c) : (a ++ b).tokens = a.tokens ++ b.tokens := by
  induction a using Text.tokens.induct with
  | case1 => simp at whitespace
  | case2 c rest ih =>
      have first := Text.tokens_cons c rest
      cases behind : (Token.first c rest).2.tokens with
      | nil =>
          rw [behind] at first
          have kind : (Token.first c rest).1.kind = .whitespace := by simpa [first] using whitespace
          rw [Text.tokens_append_of_whitespace first kind solid, first, List.singleton_append]
      | cons next more =>
          have later : (Token.first c rest).2.tokens.getLast?.map Token.kind =
              some .whitespace := by
            rwa [first, behind, List.getLast?_cons_cons, ← behind] at whitespace
          obtain ⟨last, isLast, kind⟩ := Option.map_eq_some_iff.1 later
          obtain ⟨d, inside, blank⟩ :=
            Text.exists_blank_of_whitespace (List.mem_of_getLast? isLast) kind
          rw [Text.tokens_append_of_blank first inside blank, Text.drop_first_append, ih later,
            first, List.cons_append]

/-- The number stays in front of the blank, though an exponent could have followed. -/
theorem number_resumes_after_blank :
    let a := "2e ".toList
    let b := "+5".toList
    (Text.tokens a).getLast?.map Token.kind = some .whitespace ∧ (∀ c ∈ b.head?, ¬ isBlank c) ∧
      (Text.tokens (a ++ b)) = [⟨.number, "2".toList⟩, ⟨.identifier, "e".toList⟩,
        ⟨.whitespace, " ".toList⟩, ⟨.operator, "+".toList⟩, ⟨.number, "5".toList⟩] := by
  intro a b
  have whitespace : (Text.tokens a).getLast?.map Token.kind = some .whitespace := by
    decide +kernel
  have solid : ∀ c ∈ b.head?, ¬ isBlank c := by
    rintro c ⟨⟩
    decide
  refine ⟨whitespace, solid, ?_⟩
  rw [tokens_resume_after_whitespace a b whitespace solid]
  decide +kernel

end ShaderLens
