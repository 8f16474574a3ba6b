import ShaderLens.Proofs.Token.Continuation

/-!
# Line feeds in tokens

Most forms have no text with a line feed (`Feedless`). What is left are comments and strings, which
go on until they are closed, and whitespace, where every front of a token that is not empty would do
for one (`feed_cases`). So when a text with a line feed goes on, its first token either stays the
same or was all of the text and becomes longer in the same kind (`first_of_feed`).
-/

namespace ShaderLens

open scoped Computability

namespace Form

/-- No text of the form has a line feed. -/
def Feedless (a : Form) : Prop :=
  ∀ t ∈ a, '\n' ∉ t

/-- The fronts of texts of the form have the form too, except for the empty one. -/
def Frontal (a : Form) : Prop :=
  ∀ t ∈ a, ∀ front, front <+: t → front ≠ [] → front ∈ a

variable {a : Form} {p : Char → Prop}

theorem feedless_of_madeOf (h : MadeOf p a) (other : ¬ p '\n') : Feedless a :=
  fun t member inside => other (h t member '\n' inside)

theorem feedless_numeral : Feedless numeral := by
  refine feedless_of_madeOf (p := (· ≠ '\n')) (madeOf_numeral ?_ (by simp [partHeads])) (by simp)
  rintro c digit rfl
  revert digit
  decide

theorem frontal_one : Frontal (one p) := by
  rintro _ ⟨c, holds, rfl⟩ front isFront nonempty
  have long := List.length_pos_iff.2 nonempty
  exact ⟨c, holds, isFront.eq_of_length_le long⟩

theorem frontal_many : Frontal (many p) :=
  fun _ member _ isFront _ c inside => member c (isFront.subset inside)

end Form

namespace Rule

open Form

variable {rule : Rule} {t u : Text} {a b : Token}

/-- Line feeds can be in what goes on until it is closed and in whitespace. The forms of single
characters do not exclude them. -/
theorem feed_rules (member : rule ∈ all) :
    rule.reach = .longest ∧ rule.form.Feedless ∨ rule ∈ [blockComment, string, blank] ∨
      rule ∈ [choice, punctuation, stray] := by
  have operators : ¬ (combining '\n' ∨ '\n' = '=') := by simp [combining]
  simp only [all, List.mem_cons, List.not_mem_nil, or_false] at member
  obtain rfl | rfl | rfl | rfl | rfl | rfl | rfl | rfl | rfl | rfl | rfl := member
  · exact .inr (.inl (by simp))
  · exact .inl ⟨rfl, feedless_of_madeOf madeOf_many (by decide)⟩
  · exact .inr (.inl (by simp))
  · exact .inl ⟨rfl, feedless_of_madeOf madeOf_many (by decide)⟩
  · exact .inl ⟨rfl, feedless_numeral⟩
  · exact .inl ⟨rfl, feedless_of_madeOf madeOf_many (by decide)⟩
  · exact .inr (.inl (by simp))
  · exact .inl ⟨rfl, feedless_of_madeOf madeOf_operator operators⟩
  · exact .inr (.inr (by simp))
  · exact .inr (.inr (by simp))
  · exact .inr (.inr (by simp))

/-- A rule whose tokens can have line feeds gives tokens of one kind only. -/
theorem feed_cases (member : rule ∈ all) :
    rule.reach = .longest ∧ rule.form.Feedless ∨
    (∃ kind, rule.kind = fun _ => kind) ∧
      (rule.reach = .untilClosed ∨ rule.reach = .longest ∧ rule.form.Frontal) := by
  obtain feedless | tall | short := feed_rules member
  · exact .inl feedless
  · right
    simp only [List.mem_cons, List.not_mem_nil, or_false] at tall
    obtain rfl | rfl | rfl := tall
    · exact ⟨⟨_, rfl⟩, .inl rfl⟩
    · exact ⟨⟨_, rfl⟩, .inl rfl⟩
    · exact ⟨⟨_, rfl⟩, .inr ⟨rfl, frontal_many⟩⟩
  · right
    simp only [List.mem_cons, List.not_mem_nil, or_false] at short
    obtain rfl | rfl | rfl := short <;> exact ⟨⟨_, rfl⟩, .inr ⟨rfl, frontal_one⟩⟩

theorem Gives.of_feed (member : rule ∈ all) (ha : rule.Gives t a) (hb : rule.Gives (t ++ u) b)
    (feed : '\n' ∈ t) : b = a ∨ a.text = t ∧ b.kind = a.kind ∧ t <+: b.text := by
  have takes := ha.1
  have takes' := hb.1
  obtain ⟨reach, feedless⟩ | ⟨⟨kind, constant⟩, reaches⟩ := feed_cases member
  · rw [reach] at takes takes'
    obtain same | passed := Longest.eq_or_passed takes takes'
    · exact .inl (hb.eq_of_text ha same)
    · exact absurd (passed.subset feed) (feedless _ takes'.2.1)
  · have kinds : b.kind = a.kind := by rw [ha.2, hb.2, constant]
    obtain reach | ⟨reach, frontal⟩ := reaches
    · rw [reach] at takes takes'
      obtain same | ⟨all, passed⟩ := UntilClosed.eq_or_passed takes takes'
      · exact .inl (hb.eq_of_text ha same)
      · exact .inr ⟨all, kinds, passed⟩
    · rw [reach] at takes takes'
      obtain same | passed := Longest.eq_or_passed takes takes'
      · exact .inl (hb.eq_of_text ha same)
      · have whole := frontal _ takes'.2.1 t passed (List.ne_nil_of_mem feed)
        have long := takes.2.2 t List.prefix_rfl whole
        exact .inr ⟨takes.1.eq_of_length_le long, kinds, passed⟩

end Rule

namespace Text

variable {t u : Text} {a b : Token} {later later' : List Token}

/-- What more text can do to the first token of a text with a line feed: nothing, or lengthen it. -/
theorem first_of_feed (feed : '\n' ∈ t) (h : t.tokens = a :: later)
    (h' : (t ++ u).tokens = b :: later') :
    b = a ∨ a.text = t ∧ b.kind = a.kind ∧ t <+: b.text := by
  have slash : t ≠ ['/'] := by
    rintro rfl
    revert feed
    decide
  obtain ⟨rule, member, gives, gives'⟩ := exists_rule_append slash h h'
  exact gives.of_feed member gives' feed

end Text

end ShaderLens
