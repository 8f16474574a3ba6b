import ShaderLens.Proofs.Token.Numeral

/-!
# How far ahead a lexeme looks

A front of a form is known to be the longest once a few characters behind it are seen: where it goes
on to a longer one, it does so within the next `n` characters (`GrowsWithin`). One character is
enough for runs, and three are enough for numerals (`growsWithin_numeral`), whose exponent needs a
letter, a sign and a digit before it counts.

So neither a text that ends earlier (`Longest.shorten`) nor one that goes on (`Longest.append`)
has another longest front, as long as these characters are there. Comments and strings do not look
ahead at all.
-/

namespace ShaderLens

open scoped Computability

namespace Form

/-- Where a front of the form goes on to a longer one, it does so within `n` characters. -/
def GrowsWithin (n : Nat) (a : Form) : Prop :=
  ∀ front more, front ∈ a → more ≠ [] → front ++ more ∈ a →
    ∃ part, part <+: more ∧ part ≠ [] ∧ part.length ≤ n ∧ front ++ part ∈ a

/-- Where a text of the form is not empty, one of the form begins it within `n` characters. -/
def BeginsWithin (n : Nat) (a : Form) : Prop :=
  ∀ t ∈ a, t ≠ [] → ∃ part, part <+: t ∧ part ≠ [] ∧ part.length ≤ n ∧ part ∈ a

variable {m n : Nat} {a b : Form} {p : Char → Prop}

theorem BeginsWithin.mono (h : BeginsWithin m a) (le : m ≤ n) : BeginsWithin n a := by
  intro t member textNonempty
  obtain ⟨part, isFront, nonempty, short, inside⟩ := h t member textNonempty
  exact ⟨part, isFront, nonempty, by omega, inside⟩

theorem GrowsWithin.mono (h : GrowsWithin m a) (le : m ≤ n) : GrowsWithin n a := by
  intro front more member proper longer
  obtain ⟨part, isFront, nonempty, short, inside⟩ := h front more member proper longer
  exact ⟨part, isFront, nonempty, by omega, inside⟩

theorem beginsWithin_one : BeginsWithin 1 (one p) := by
  rintro _ ⟨c, holds, rfl⟩ _
  exact ⟨[c], List.prefix_rfl, by simp, by simp, c, holds, rfl⟩

theorem BeginsWithin.add (ha : BeginsWithin n a) (hb : BeginsWithin n b) :
    BeginsWithin n (a + b) := by
  rintro t (member | member) textNonempty
  · obtain ⟨part, isFront, nonempty, short, inside⟩ := ha t member textNonempty
    exact ⟨part, isFront, nonempty, short, .inl inside⟩
  · obtain ⟨part, isFront, nonempty, short, inside⟩ := hb t member textNonempty
    exact ⟨part, isFront, nonempty, short, .inr inside⟩

theorem BeginsWithin.cons (h : BeginsWithin n a) : BeginsWithin (n + 1) (one p * a) := by
  rintro _ ⟨_, ⟨c, holds, rfl⟩, t, member, rfl⟩ _
  by_cases empty : t = []
  · subst empty
    exact ⟨[c], List.prefix_rfl, by simp, by simp, cons_mem_one_mul.2 ⟨holds, member⟩⟩
  · obtain ⟨part, isFront, _, short, inside⟩ := h t member empty
    refine ⟨c :: part, (List.prefix_append_right_inj [c]).2 isFront, by simp, ?_, ?_⟩
    · simpa using short
    · exact cons_mem_one_mul.2 ⟨holds, inside⟩

theorem growsWithin_one : GrowsWithin n (one p) := by
  rintro _ more ⟨c, _, rfl⟩ proper ⟨d, _, same⟩
  simp [proper] at same

theorem growsWithin_many : GrowsWithin 1 (many p) := by
  intro front more member proper longer
  obtain ⟨c, rest, rfl⟩ := List.exists_cons_of_ne_nil proper
  refine ⟨[c], ⟨rest, rfl⟩, by simp, by simp, fun d inside => longer d ?_⟩
  exact ((List.prefix_append_right_inj front).2 ⟨rest, rfl⟩).subset inside

theorem GrowsWithin.perhaps (grows : GrowsWithin n a) (begins : BeginsWithin n a) :
    GrowsWithin n (1 + a) := by
  rintro front more (rfl | member) proper (empty | longer)
  · exact absurd empty proper
  · obtain ⟨part, isFront, nonempty, short, inside⟩ := begins more longer proper
    exact ⟨part, isFront, nonempty, short, .inr inside⟩
  · exact absurd (List.append_eq_nil_iff.1 empty).2 proper
  · obtain ⟨part, isFront, nonempty, short, inside⟩ := grows front more member proper longer
    exact ⟨part, isFront, nonempty, short, .inr inside⟩

theorem GrowsWithin.cons (h : GrowsWithin n a) : GrowsWithin n (one p * a) := by
  rintro _ more ⟨_, ⟨c, holds, rfl⟩, front, member, rfl⟩ proper longer
  have inner := (cons_mem_one_mul (t := front ++ more)).1 longer
  obtain ⟨part, isFront, nonempty, short, inside⟩ := h front more member proper inner.2
  exact ⟨part, isFront, nonempty, short,
    cons_mem_one_mul (t := front ++ part) |>.2 ⟨holds, inside⟩⟩

/-- Forms apart from each other grow one at a time, so together they grow as the slower one does. -/
theorem GrowsWithin.mul (ha : GrowsWithin n a) (hb : GrowsWithin n b) (apart : Apart a b) :
    GrowsWithin n (a * b) := by
  rintro _ more ⟨front, member, next, nextMember, rfl⟩ proper longer
  obtain ⟨front', member', next', nextMember', h⟩ := longer
  change front' ++ next' = front ++ next ++ more at h
  rw [List.append_assoc] at h
  by_cases same : front' = front
  · subst same
    obtain rfl := List.append_cancel_left h
    obtain ⟨part, isFront, nonempty, short, inside⟩ := hb next more nextMember proper nextMember'
    refine ⟨part, isFront, nonempty, short, ?_⟩
    simpa using Language.append_mem_mul member inside
  obtain ⟨tail, rfl, later⟩ | ⟨tail, rfl, later⟩ := List.append_eq_append_iff.1 h
  · have further : tail ≠ [] := by
      rintro rfl
      simp at same
    obtain ⟨c, tail, rfl⟩ := List.exists_cons_of_ne_nil further
    exact absurd (later ▸ nextMember') (apart front' c tail _ member' member)
  · have further : tail ≠ [] := by
      rintro rfl
      simp at same
    obtain ⟨c, tail, rfl⟩ := List.exists_cons_of_ne_nil further
    cases next with
    | nil =>
        -- only the first part has begun, so it is the first part that goes on
        rw [List.nil_append] at later
        obtain ⟨part, isFront, nonempty, short, inside⟩ :=
          ha front (c :: tail) member (by simp) member'
        refine ⟨part, isFront.trans ⟨next', later.symm⟩, nonempty, short, ?_⟩
        simpa using Language.append_mem_mul inside nextMember
    | cons d next =>
        obtain rfl : d = c := (List.cons.inj later).1
        exact absurd nextMember (apart front d tail next member member')

/-! ## Numerals -/

theorem growsWithin_digits : GrowsWithin 1 digits :=
  growsWithin_many.cons

theorem beginsWithin_digits : BeginsWithin 1 digits := by
  intro t member textNonempty
  obtain ⟨_, all⟩ := mem_digits.1 member
  obtain ⟨c, rest, rfl⟩ := List.exists_cons_of_ne_nil textNonempty
  exact ⟨[c], ⟨rest, rfl⟩, by simp, by simp, mem_digits.2 ⟨by simp, by simp [all c]⟩⟩

theorem growsWithin_fraction : GrowsWithin 1 fraction :=
  growsWithin_digits.cons

theorem beginsWithin_fraction : BeginsWithin 2 fraction :=
  beginsWithin_digits.cons

theorem growsWithin_exponent : GrowsWithin 1 exponent :=
  ((growsWithin_one.perhaps beginsWithin_one).mul growsWithin_digits apart_sign).cons

theorem beginsWithin_exponent : BeginsWithin 3 exponent := by
  have signed : BeginsWithin 2 ((1 + one fun c => c = '+' ∨ c = '-') * digits) := by
    rw [add_mul, one_mul]
    exact (beginsWithin_digits.mono (by omega)).add beginsWithin_digits.cons
  exact signed.cons

/-- A numeral that goes on has a letter, a sign and a digit to pass by at most. -/
theorem growsWithin_numeral : GrowsWithin 3 numeral := by
  have ending : GrowsWithin 3 (1 + suffix) :=
    growsWithin_one.perhaps (beginsWithin_one.mono (by omega))
  have power : GrowsWithin 3 (1 + exponent) :=
    (growsWithin_exponent.mono (by omega)).perhaps beginsWithin_exponent
  have part : GrowsWithin 3 (1 + fraction) :=
    (growsWithin_fraction.mono (by omega)).perhaps (beginsWithin_fraction.mono (by omega))
  have whole : GrowsWithin 3 (many (·.isDigit)) := growsWithin_many.mono (by omega)
  have tail := whole.mul (part.mul (power.mul ending apart_exponent) apart_fraction) apart_digits
  simpa only [numeral, digits, mul_assoc] using tail.cons (p := (·.isDigit))

end Form

variable {form : Form} {t u front : Text}

/-! ## Texts that end earlier -/

theorem Longest.shorten (h : Longest form t front) (isFront : front <+: u) (inside : u <+: t) :
    Longest form u front :=
  ⟨isFront, h.2.1, fun other short => h.2.2 other (short.trans inside)⟩

theorem UntilClosed.shorten (h : UntilClosed form t front) (isFront : front <+: u)
    (inside : u <+: t) : UntilClosed form u front := by
  obtain ⟨_, member, shortest⟩ | ⟨rfl, never⟩ := h
  · exact .inl ⟨isFront, member, fun other short => shortest other (short.trans inside)⟩
  · obtain rfl : front = u := isFront.eq_of_length_le inside.length_le
    exact .inr ⟨rfl, never⟩

/-! ## Texts that go on -/

theorem Longest.append {n : Nat} (grows : form.GrowsWithin n) (h : Longest form t front)
    (room : front.length + n ≤ t.length) (more : Text) : Longest form (t ++ more) front := by
  obtain ⟨isFront, member, longest⟩ := h
  refine ⟨isFront.trans (List.prefix_append t more), member, fun other begins inside => ?_⟩
  by_contra longer
  obtain ⟨rest, rfl⟩ := List.prefix_of_prefix_length_le
    (isFront.trans (List.prefix_append t more)) begins (by omega)
  have restNonempty : rest ≠ [] := by
    rintro rfl
    simp at longer
  obtain ⟨part, within, nonempty, short, reached⟩ := grows front rest member restNonempty inside
  -- the first step beyond the front is still inside the text that was there
  have early : front ++ part <+: t := by
    have begins' := ((List.prefix_append_right_inj front).2 within).trans begins
    exact List.prefix_of_prefix_length_le begins' (List.prefix_append t more)
      (by rw [List.length_append]; omega)
  have bound := longest _ early reached
  have positive := List.length_pos_iff.2 nonempty
  rw [List.length_append] at bound
  omega

theorem UntilClosed.of_shortest (isFront : front <+: t) (member : front ∈ form)
    (shortest : ∀ other, other <+: t → other ∈ form → front.length ≤ other.length) (more : Text) :
    UntilClosed form (t ++ more) front := by
  have begun : front <+: t ++ more := isFront.trans (List.prefix_append t more)
  refine .inl ⟨begun, member, fun other begins inside => ?_⟩
  by_contra shorter
  have early := List.prefix_of_prefix_length_le begins begun (by omega)
  exact shorter (shortest other (early.trans isFront) inside)

theorem UntilClosed.append (h : UntilClosed form t front) (passed : front ≠ t) (more : Text) :
    UntilClosed form (t ++ more) front := by
  obtain ⟨isFront, member, shortest⟩ | ⟨same, _⟩ := h
  · exact .of_shortest isFront member shortest more
  · exact absurd same passed

/-- The longest front of a text that goes on is the same, or it has passed all that was there. -/
theorem Longest.eq_or_passed {later : Text} (h : Longest form t front)
    (h' : Longest form (t ++ u) later) : later = front ∨ t <+: later := by
  obtain inside | passed := List.prefix_or_prefix_of_prefix h'.1 (List.prefix_append t u)
  · left
    apply eq_of_fronts inside h.1
    have := h.2.2 later inside h'.2.1
    have := h'.2.2 front (h.1.trans (List.prefix_append t u)) h.2.1
    omega
  · exact .inr passed

/-- What is closed stays so, and what is open goes on. -/
theorem UntilClosed.eq_or_passed {later : Text} (h : UntilClosed form t front)
    (h' : UntilClosed form (t ++ u) later) : later = front ∨ front = t ∧ t <+: later := by
  obtain ⟨isFront, member, shortest⟩ | ⟨rfl, never⟩ := h
  · exact .inl (h'.unique (.of_shortest isFront member shortest u))
  · right
    refine ⟨rfl, ?_⟩
    obtain ⟨begins, member, _⟩ | ⟨rfl, _⟩ := h'
    · obtain inside | passed := List.prefix_or_prefix_of_prefix begins (List.prefix_append front u)
      · exact absurd member (never later inside)
      · exact passed
    · exact List.prefix_append front u

end ShaderLens
