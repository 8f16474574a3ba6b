import Mathlib.Computability.Language
import ShaderLens.Token.Cut

/-!
# Forms of lexemes

The form of a lexeme is a language. Of the fronts of a text that have the form a lexeme is the
longest (`Longest`), or else the shortest, and all of the text where no front has it
(`UntilClosed`). Either way the text determines the lexeme.

To take a front of one form and go on with another takes the longest front of both together, if
the forms are apart (`longest_andThen`): wherever a text of the first form goes on to a longer one,
no text of the second form begins.
-/

namespace ShaderLens

open scoped Computability

abbrev Form := Language Char

namespace Form

/-- One character of a class. -/
def one (p : Char → Prop) : Form :=
  {t | ∃ c, p c ∧ t = [c]}

/-- Any number of characters of a class. -/
def many (p : Char → Prop) : Form :=
  {t | ∀ c ∈ t, p c}

/-- One given text. -/
def exactly (text : Text) : Form :=
  {t | t = text}

/-- Any text. -/
def anything : Form :=
  many fun _ => True

/-- A text of the form `inner` between two marks. -/
def between (opener : Text) (inner : Form) (closer : Text) : Form :=
  exactly opener * inner * exactly closer

/-- All characters in texts of the form are of a class. -/
def MadeOf (p : Char → Prop) (a : Form) : Prop :=
  ∀ t ∈ a, ∀ c ∈ t, p c

variable {p q : Char → Prop} {a b : Form} {t : Text}

theorem mem_many : t ∈ many p ↔ ∀ c ∈ t, p c := Iff.rfl

theorem cons_mem_one_mul {c : Char} : c :: t ∈ one p * a ↔ p c ∧ t ∈ a := by
  rw [Language.mem_mul]
  constructor
  · rintro ⟨_, ⟨d, holds, rfl⟩, u, member, same⟩
    obtain ⟨rfl, rfl⟩ := List.cons.inj same
    exact ⟨holds, member⟩
  · rintro ⟨holds, member⟩
    exact ⟨[c], ⟨c, holds, rfl⟩, t, member, rfl⟩

theorem nil_not_mem_one_mul : [] ∉ one p * a := by
  rw [Language.mem_mul]
  rintro ⟨_, ⟨c, _, rfl⟩, u, _, same⟩
  simp at same

theorem mem_exactly_mul {front : Text} :
    t ∈ exactly front * a ↔ ∃ u ∈ a, t = front ++ u := by
  rw [Language.mem_mul]
  constructor
  · rintro ⟨_, rfl, u, member, rfl⟩
    exact ⟨u, member, rfl⟩
  · rintro ⟨u, member, rfl⟩
    exact ⟨front, rfl, u, member, rfl⟩

theorem mem_between {opener closer : Text} {inner : Form} :
    t ∈ between opener inner closer ↔ ∃ body ∈ inner, t = opener ++ body ++ closer := by
  rw [between, mul_assoc, mem_exactly_mul]
  constructor
  · rintro ⟨_, ⟨body, member, _, rfl, rfl⟩, rfl⟩
    exact ⟨body, member, by simp⟩
  · rintro ⟨body, member, rfl⟩
    exact ⟨body ++ closer, Language.append_mem_mul member rfl, by simp⟩

theorem madeOf_one : MadeOf p (one p) := by
  rintro _ ⟨c, holds, rfl⟩ d inside
  exact List.mem_singleton.1 inside ▸ holds

theorem madeOf_many : MadeOf p (many p) :=
  fun _ member => member

theorem MadeOf.mono (h : MadeOf p a) (wider : ∀ c, p c → q c) : MadeOf q a :=
  fun t member c inside => wider c (h t member c inside)

theorem MadeOf.mul (ha : MadeOf p a) (hb : MadeOf p b) : MadeOf p (a * b) := by
  rintro _ ⟨s, inA, t, inB, rfl⟩ c inside
  obtain here | later := List.mem_append.1 inside
  · exact ha s inA c here
  · exact hb t inB c later

theorem MadeOf.perhaps (h : MadeOf p a) : MadeOf p (1 + a) := by
  rintro t (rfl | member) c inside
  · cases inside
  · exact h t member c inside

theorem append_mem_kstar {s : Text} (hs : s ∈ a) (ht : t ∈ a∗) : s ++ t ∈ a∗ := by
  obtain ⟨parts, rfl, members⟩ := ht
  refine ⟨s :: parts, rfl, fun y member => ?_⟩
  obtain rfl | later := List.mem_cons.1 member
  · exact hs
  · exact members y later

end Form

/-- The longest front of a text that has a form. -/
def Longest (form : Form) (t front : Text) : Prop :=
  front <+: t ∧ front ∈ form ∧ ∀ other, other <+: t → other ∈ form → other.length ≤ front.length

/-- The shortest front of a text that has a form, or all of the text if no front has it. -/
def UntilClosed (form : Form) (t front : Text) : Prop :=
  front <+: t ∧ front ∈ form ∧ (∀ other, other <+: t → other ∈ form → front.length ≤ other.length) ∨
  front = t ∧ ∀ other, other <+: t → other ∉ form

theorem eq_of_fronts {t a b : Text} (ha : a <+: t) (hb : b <+: t) (same : a.length = b.length) :
    a = b :=
  (List.prefix_of_prefix_length_le ha hb same.le).eq_of_length same

theorem Longest.unique {form : Form} {t a b : Text} (ha : Longest form t a)
    (hb : Longest form t b) : a = b := by
  apply eq_of_fronts ha.1 hb.1
  have := ha.2.2 b hb.1 hb.2.1
  have := hb.2.2 a ha.1 ha.2.1
  omega

theorem UntilClosed.unique {form : Form} {t a b : Text} (ha : UntilClosed form t a)
    (hb : UntilClosed form t b) : a = b := by
  obtain ⟨frontA, formA, shortA⟩ | ⟨rfl, noneA⟩ := ha <;>
    obtain ⟨frontB, formB, shortB⟩ | ⟨rfl, noneB⟩ := hb
  · apply eq_of_fronts frontA frontB
    have := shortA b frontB formB
    have := shortB a frontA formA
    omega
  · exact absurd formA (noneB a frontA)
  · exact absurd formB (noneA b frontB)
  · rfl

theorem Longest.nil {form : Form} {t : Text} (empty : [] ∈ form)
    (only : ∀ other, other <+: t → other ∈ form → other = []) : Longest form t [] :=
  ⟨List.nil_prefix, empty, fun other front member => by simp [only other front member]⟩

theorem Longest.of_nil {form : Form} (empty : [] ∈ form) : Longest form [] [] :=
  .nil empty fun _ front _ => List.prefix_nil.1 front

/-- Only the forms of fronts matter. -/
theorem Longest.of_fronts {a b : Form} {t front : Text} (h : Longest a t front)
    (member : front ∈ b) (back : ∀ other, other <+: t → other ∈ b → other ∈ a) :
    Longest b t front :=
  ⟨h.1, member, fun other isFront inside => h.2.2 other isFront (back other isFront inside)⟩

theorem Longest.perhaps {form : Form} {t front : Text} (h : Longest form t front) :
    Longest (1 + form) t front := by
  refine ⟨h.1, .inr h.2.1, ?_⟩
  rintro other isFront (rfl | member)
  · exact Nat.zero_le _
  · exact h.2.2 other isFront member

theorem Longest.perhaps_none {form : Form} {t : Text}
    (never : ∀ other, other <+: t → other ∉ form) : Longest (1 + form) t [] := by
  refine .nil (.inl rfl) ?_
  rintro other isFront (rfl | inside)
  · rfl
  · exact absurd inside (never other isFront)

theorem Longest.cons {form : Form} {p : Char → Prop} {c : Char} {rest front : Text} (holds : p c)
    (h : Longest form rest front) : Longest (Form.one p * form) (c :: rest) (c :: front) := by
  obtain ⟨isFront, member, longest⟩ := h
  refine ⟨List.cons_prefix_cons.2 ⟨rfl, isFront⟩, Form.cons_mem_one_mul.2 ⟨holds, member⟩, ?_⟩
  intro other otherFront otherMember
  cases other with
  | nil => simp
  | cons d other =>
      have inside := (List.cons_prefix_cons.1 otherFront).2
      exact Nat.succ_le_succ (longest other inside (Form.cons_mem_one_mul.1 otherMember).2)

/-- The longest front of characters of a class is all of them up to one that is not. -/
theorem longest_many_iff {p : Char → Prop} {front rest : Text} :
    Longest (Form.many p) (front ++ rest) front ↔
      (∀ c ∈ front, p c) ∧ ∀ c ∈ rest.head?, ¬ p c := by
  constructor
  · intro h
    refine ⟨h.2.1, ?_⟩
    intro c isHead holds
    obtain ⟨more, rfl⟩ := List.head?_eq_some_iff.1 isHead
    have inside : front ++ [c] ∈ Form.many p := by
      intro d member
      obtain before | here := List.mem_append.1 member
      · exact h.2.1 d before
      · exact List.mem_singleton.1 here ▸ holds
    have longer := h.2.2 (front ++ [c]) ⟨more, by simp⟩ inside
    rw [List.length_append, List.length_singleton] at longer
    omega
  · rintro ⟨all, stop⟩
    refine ⟨List.prefix_append front rest, all, ?_⟩
    intro other isFront inside
    by_contra longer
    obtain ⟨tail, rfl⟩ := List.prefix_of_prefix_length_le (List.prefix_append front rest) isFront
      (by omega)
    cases tail with
    | nil => simp at longer
    | cons c tail =>
        obtain ⟨more, rfl⟩ := (List.prefix_append_right_inj front).1 isFront
        exact stop c rfl (inside c (by simp))

/-- Where a text of the form `a` goes on to a longer one, no text of the form `b` begins. -/
def Apart (a b : Form) : Prop :=
  ∀ front c rest more, front ∈ a → front ++ c :: rest ∈ a → c :: more ∉ b

theorem Apart.of_classes {a b : Form} {p q : Char → Prop} (inside : ∀ t ∈ a, ∀ c ∈ t, p c)
    (heads : ∀ c more, c :: more ∈ b → q c) (disjoint : ∀ c, p c → ¬ q c) : Apart a b := by
  intro front c rest more _ longer begins
  exact disjoint c (inside _ longer c (by simp)) (heads c more begins)

/-- Once the longest front of the first form is passed by, nothing of the second can follow. -/
theorem Apart.eq_nil {a b : Form} (apart : Apart a b) {t longest front next : Text}
    (h : Longest a t longest) (member : front ∈ a) (nextMember : next ∈ b)
    (isFront : front ++ next <+: t) (passed : front ≠ longest) : next = [] := by
  have inside : front <+: t := (List.prefix_append front next).trans isFront
  have shorter := h.2.2 front inside member
  obtain ⟨tail, rfl⟩ := List.prefix_of_prefix_length_le inside h.1 shorter
  cases tail with
  | nil => simp at passed
  | cons c tail =>
      cases next with
      | nil => rfl
      | cons d next =>
          have pair : front ++ [c] <+: t :=
            (List.prefix_append_right_inj front).2 ⟨tail, rfl⟩ |>.trans h.1
          have other : front ++ [d] <+: t :=
            (List.prefix_append_right_inj front).2 ⟨next, rfl⟩ |>.trans isFront
          have head : c = d := by simpa using eq_of_fronts pair other (by simp)
          exact absurd (head ▸ nextMember) (apart front c tail next member h.2.1)

/-- Of two forms apart from each other, the longest front of the first and the longest that goes on
from there with the second are the longest front of both together. -/
theorem Longest.mul {a b : Form} {front rest next : Text} (h : Longest a (front ++ rest) front)
    (later : Longest b rest next) (apart : Apart a b) :
    Longest (a * b) (front ++ rest) (front ++ next) := by
  refine ⟨?_, Language.append_mem_mul h.2.1 later.2.1, ?_⟩
  · exact (List.prefix_append_right_inj front).2 later.1
  · intro other isFront member
    obtain ⟨first, inFirst, more, inNext, rfl⟩ := Language.mem_mul.1 member
    rw [List.length_append, List.length_append]
    by_cases same : first = front
    · subst same
      have := later.2.2 more ((List.prefix_append_right_inj _).1 isFront) inNext
      omega
    · have stop := apart.eq_nil h inFirst inNext isFront same
      have := h.2.2 first ((List.prefix_append first more).trans isFront) inFirst
      simp only [stop, List.length_nil]
      omega

/-- Going on with a form apart from the first takes the longest front of both together. -/
theorem longest_andThen {a b : Form} {first : Cut} {next : Text → Cut} {t : Text}
    (splits : first.Splits t) (h : Longest a t first.taken)
    (later : ∀ u, Longest b u (next u).taken) (apart : Apart a b) :
    Longest (a * b) t (first.andThen next).taken := by
  rw [← show first.taken ++ first.rest = t from splits] at h ⊢
  exact h.mul (later first.rest) apart

end ShaderLens
