import ShaderLens.Proofs.Token.Reach

/-!
# Numerals

A numeral is digits, a fraction, an exponent and a suffix, of which all but the digits may be
missing. Cutting the parts off one after the other takes the longest numeral
(`longest_numeral`), because no part can begin with a character that goes on with the part before.
-/

namespace ShaderLens

namespace Form

/-- At least one digit. -/
def digits : Form :=
  one (·.isDigit) * many (·.isDigit)

/-- A point with digits after it. -/
def fraction : Form :=
  one (· = '.') * digits

/-- A letter `e`, perhaps a sign, and digits. -/
def exponent : Form :=
  one (fun c => c = 'e' ∨ c = 'E') * ((1 + one fun c => c = '+' ∨ c = '-') * digits)

/-- The mark of an unsigned or a floating-point number. -/
def suffix : Form :=
  one (· ∈ ['u', 'U', 'f', 'F'])

def numeral : Form :=
  digits * (1 + fraction) * (1 + exponent) * (1 + suffix)

variable {c : Char} {t : Text}

theorem mem_digits : t ∈ digits ↔ t ≠ [] ∧ ∀ c ∈ t, c.isDigit := by
  cases t with
  | nil => simp [digits, nil_not_mem_one_mul]
  | cons c rest => simp [digits, cons_mem_one_mul, mem_many]

theorem cons_mem_perhaps_mul {p : Char → Prop} {a b : Form} (h : c :: t ∈ (1 + one p * a) * b) :
    p c ∨ c :: t ∈ b := by
  obtain ⟨_, rfl | inside, more, member, same⟩ := Language.mem_mul.1 h
  · exact .inr (same ▸ member)
  · obtain ⟨_, ⟨d, holds, rfl⟩, u, _, rfl⟩ := Language.mem_mul.1 inside
    exact .inl ((List.cons.inj same).1 ▸ holds)

theorem suffix_head (h : c :: t ∈ 1 + suffix) : c ∈ ['u', 'U', 'f', 'F'] := by
  obtain h | ⟨d, holds, same⟩ := h
  · cases h
  · exact (List.cons.inj same).1 ▸ holds

theorem mem_of_mem_fraction (h : t ∈ 1 + fraction) : ∀ c ∈ t, c = '.' ∨ c.isDigit := by
  obtain rfl | ⟨_, ⟨d, rfl, rfl⟩, u, inside, rfl⟩ := h
  · simp
  · have all := (mem_digits.1 inside).2
    intro c member
    obtain rfl | later := List.mem_cons.1 member
    · exact .inl rfl
    · exact .inr (all c later)

theorem mem_of_mem_exponent (h : t ∈ 1 + exponent) :
    ∀ c ∈ t, (c = 'e' ∨ c = 'E') ∨ (c = '+' ∨ c = '-') ∨ c.isDigit := by
  obtain rfl | ⟨_, ⟨d, letter, rfl⟩, _, ⟨sign, perhaps, u, inside, rfl⟩, rfl⟩ := h
  · simp
  · have all := (mem_digits.1 inside).2
    intro c member
    simp only [List.cons_append, List.nil_append, List.mem_cons, List.mem_append] at member
    obtain rfl | signed | later := member
    · exact .inl letter
    · obtain rfl | ⟨s, holds, rfl⟩ := perhaps
      · simp at signed
      · rw [List.mem_singleton.1 signed]
        exact .inr (.inl holds)
    · exact .inr (.inr (all c later))

/-- The characters that parts of a numeral other than its digits begin with. -/
def partHeads : List Char :=
  ['.', 'e', 'E', 'u', 'U', 'f', 'F']

theorem madeOf_numeral {p : Char → Prop} (digit : ∀ c, c.isDigit → p c)
    (mark : ∀ c ∈ '+' :: '-' :: partHeads, p c) : MadeOf p numeral := by
  have marks {q : Char → Prop} (known : ∀ c, q c → c ∈ '+' :: '-' :: partHeads) :
      MadeOf p (one q) := madeOf_one.mono fun c holds => mark c (known c holds)
  have digits : MadeOf p digits := (madeOf_one.mono digit).mul (madeOf_many.mono digit)
  have fraction : MadeOf p fraction := (marks (by simp [partHeads])).mul digits
  have sign : MadeOf p (1 + one fun c => c = '+' ∨ c = '-') := (marks (by simp)).perhaps
  have exponent : MadeOf p exponent :=
    (marks (by simp +contextual [partHeads])).mul (sign.mul digits)
  have suffix : MadeOf p suffix := marks (by simp +contextual [partHeads])
  exact ((digits.mul fraction.perhaps).mul exponent.perhaps).mul suffix.perhaps

theorem not_isDigit_of_mem_partHeads : ∀ c ∈ partHeads, ¬ c.isDigit := by
  simp [partHeads]

theorem apart_digits :
    Apart (many (·.isDigit)) ((1 + fraction) * ((1 + exponent) * (1 + suffix))) := by
  refine .of_classes (q := (· ∈ partHeads)) (fun _ h => h) ?_ ?_
  · intro c more begins
    obtain rfl | begins := cons_mem_perhaps_mul begins
    · decide
    · obtain (rfl | rfl) | begins := cons_mem_perhaps_mul begins
      · decide
      · decide
      · exact List.mem_of_mem_drop (i := 3) (suffix_head begins)
  · exact fun c digit member => not_isDigit_of_mem_partHeads c member digit

theorem apart_fraction : Apart (1 + fraction) ((1 + exponent) * (1 + suffix)) := by
  refine .of_classes (q := (· ∈ partHeads.drop 1)) (fun _ => mem_of_mem_fraction) ?_ ?_
  · intro c more begins
    obtain (rfl | rfl) | begins := cons_mem_perhaps_mul begins
    · decide
    · decide
    · exact List.mem_of_mem_drop (i := 2) (suffix_head begins)
  · rintro c (rfl | digit) member
    · revert member; decide
    · exact not_isDigit_of_mem_partHeads c (List.mem_of_mem_drop member) digit

theorem apart_exponent : Apart (1 + exponent) (1 + suffix) := by
  refine .of_classes (fun _ => mem_of_mem_exponent) (fun c more => suffix_head) ?_
  rintro c ((rfl | rfl) | (rfl | rfl) | digit) member
  · revert member; decide
  · revert member; decide
  · revert member; decide
  · revert member; decide
  · exact not_isDigit_of_mem_partHeads c (List.mem_of_mem_drop (i := 3) member) digit

theorem apart_sign : Apart (1 + one fun c => c = '+' ∨ c = '-') digits := by
  refine .of_classes (p := fun c => c = '+' ∨ c = '-') (q := (·.isDigit)) ?_ ?_ ?_
  · rintro _ (rfl | ⟨d, holds, rfl⟩)
    · simp
    · simpa using holds
  · exact fun c more begins => (mem_digits.1 begins).2 c List.mem_cons_self
  · rintro c (rfl | rfl) <;> decide

end Form

open Form

theorem Longest.perhaps_nil {p : Char → Prop} {a : Form} {c : Char} (fails : ¬ p c) (rest : Text) :
    Longest (1 + Form.one p * a) (c :: rest) [] := by
  apply Longest.perhaps_none
  intro other front inside
  cases other with
  | nil => exact nil_not_mem_one_mul inside
  | cons d other =>
      obtain ⟨rfl, _⟩ := List.cons_prefix_cons.1 front
      exact fails (cons_mem_one_mul.1 inside).1

namespace Cut

theorem longest_leadAndDigits (lead t : Text) :
    Longest (1 + exactly lead * digits) (lead ++ t) (leadAndDigits lead t).taken := by
  have found := longest_run (p := Char.isDigit) (fun _ => Iff.rfl) t
  rw [leadAndDigits]
  split
  · next missing =>
      refine .nil (.inl rfl) ?_
      rintro other front (rfl | member)
      · rfl
      · obtain ⟨d, inside, rfl⟩ := mem_exactly_mul.1 member
        obtain ⟨nonempty, all⟩ := mem_digits.1 inside
        have := found.2.2 d ((List.prefix_append_right_inj lead).1 front) all
        rw [missing, List.length_nil, Nat.le_zero, List.length_eq_zero_iff] at this
        exact absurd this nonempty
  · next nonempty =>
      refine ⟨(List.prefix_append_right_inj lead).2 found.1, .inr ?_, ?_⟩
      · exact mem_exactly_mul.2 ⟨_, mem_digits.2 ⟨nonempty, found.2.1⟩, rfl⟩
      · rintro other front (rfl | member)
        · simp
        · obtain ⟨d, inside, rfl⟩ := mem_exactly_mul.1 member
          have := found.2.2 d ((List.prefix_append_right_inj lead).1 front) (mem_digits.1 inside).2
          simpa [preceded] using this

theorem longest_fraction (t : Text) : Longest (1 + Form.fraction) t (fraction t).taken := by
  cases t with
  | nil => exact .of_nil (.inl rfl)
  | cons c rest =>
      rw [fraction]
      split
      · next point =>
          subst point
          refine (longest_leadAndDigits ['.'] rest).of_fronts ?_ ?_
          · obtain empty | member := (longest_leadAndDigits ['.'] rest).2.1
            · exact .inl empty
            · obtain ⟨d, inside, same⟩ := mem_exactly_mul.1 member
              exact .inr (same ▸ cons_mem_one_mul.2 ⟨rfl, inside⟩)
          · rintro other front (rfl | ⟨_, ⟨_, rfl, rfl⟩, d, inside, rfl⟩)
            · exact .inl rfl
            · exact .inr (mem_exactly_mul.2 ⟨d, inside, rfl⟩)
      · next other => exact .perhaps_nil (p := (· = '.')) other rest

theorem longest_exponent (t : Text) : Longest (1 + Form.exponent) t (exponent t).taken := by
  cases t with
  | nil => exact .of_nil (.inl rfl)
  | cons c rest =>
      rw [exponent]
      split
      · next letter =>
          generalize found : one (fun s => s = '+' || s = '-') rest = sign
          have cut : sign.taken ++ sign.rest = rest := found ▸ splits_one _ rest
          have signed : Longest (1 + Form.one fun c => c = '+' ∨ c = '-') rest sign.taken :=
            found ▸ longest_one (by simp) rest
          have reach := longest_leadAndDigits (c :: sign.taken) sign.rest
          rw [List.cons_append, cut] at reach
          refine reach.of_fronts ?_ ?_
          · obtain empty | member := reach.2.1
            · exact .inl empty
            · obtain ⟨d, inside, same⟩ := mem_exactly_mul.1 member
              exact .inr (same ▸ cons_mem_one_mul.2
                ⟨letter, Language.append_mem_mul signed.2.1 inside⟩)
          · rintro other front (rfl | ⟨_, ⟨e, _, rfl⟩, _, ⟨s, perhaps, d, inside, rfl⟩, rfl⟩)
            · exact .inl rfl
            · obtain ⟨rfl, signFront⟩ : e = c ∧ s ++ d <+: rest := List.cons_prefix_cons.1 front
              -- digits that follow leave no choice for the sign
              by_cases same : s = sign.taken
              · exact .inr (mem_exactly_mul.2 ⟨d, inside, by simp [same]⟩)
              · have := apart_sign.eq_nil signed perhaps inside signFront same
                exact absurd this (mem_digits.1 inside).1
      · next other => exact .perhaps_nil other rest

theorem andThen_assoc (cut : Cut) (f g : Text → Cut) :
    (cut.andThen f).andThen g = cut.andThen fun t => (f t).andThen g := by
  simp [andThen, preceded]

theorem longest_numberTail (t : Text) :
    Longest (many (·.isDigit) * ((1 + Form.fraction) * ((1 + Form.exponent) * (1 + suffix)))) t
      (numberTail t).taken := by
  rw [numberTail, andThen_assoc, andThen_assoc]
  refine longest_andThen (splits_run _ t) (longest_run (fun _ => Iff.rfl) t) (fun u => ?_)
    apart_digits
  refine longest_andThen (splits_fraction u) (longest_fraction u) (fun v => ?_) apart_fraction
  exact longest_andThen (splits_exponent v) (longest_exponent v)
    (longest_one (by simp)) apart_exponent

/-- A number takes the longest numeral that its text begins with. -/
theorem longest_numeral {c : Char} (digit : c.isDigit) (rest : Text) :
    Longest numeral (c :: rest) (c :: (numberTail rest).taken) := by
  have reach := (longest_numberTail rest).cons (p := (·.isDigit)) digit
  simpa only [numeral, digits, mul_assoc] using reach

end Cut

end ShaderLens
