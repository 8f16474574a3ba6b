import ShaderLens.Proofs.Token.Form
import ShaderLens.Token.Lexeme

/-!
# How far cuts reach

Each way of cutting takes a front of a certain form: a run or a single character is the longest
front of its form, and comments and strings reach until they are closed.
-/

namespace ShaderLens

open scoped Computability

namespace Form

/-- What may stand between the quotes of a string: characters other than quotes and backslashes,
and backslashes with the character that each of them masks. -/
def quoted : Form :=
  (one (fun c => c ≠ '"' ∧ c ≠ '\\') + exactly ['\\'] * one fun _ => True)∗

theorem plain_cons_mem_quoted {c : Char} {t : Text} (quote : c ≠ '"') (backslash : c ≠ '\\')
    (h : t ∈ quoted) : c :: t ∈ quoted :=
  append_mem_kstar (s := [c]) (.inl ⟨c, ⟨quote, backslash⟩, rfl⟩) h

theorem masked_cons_mem_quoted {c : Char} {t : Text} (h : t ∈ quoted) : '\\' :: c :: t ∈ quoted :=
  append_mem_kstar (s := ['\\', c]) (.inr ⟨['\\'], rfl, [c], ⟨c, trivial, rfl⟩, rfl⟩) h

end Form

open Form

namespace Cut

theorem longest_run {p : Char → Bool} {kind : Char → Prop} (same : ∀ c, p c = true ↔ kind c)
    (t : Text) : Longest (many kind) t (run p t).taken := by
  have holds : ∀ c ∈ t.takeWhile p, p c = true := List.all_eq_true.1 List.all_takeWhile
  refine ⟨List.takeWhile_prefix p, fun c member => (same c).1 (holds c member), ?_⟩
  rintro other ⟨more, rfl⟩ all
  have inside : ∀ c ∈ other, p c = true := fun c member => (same c).2 (all c member)
  simp [run, List.takeWhile_append_of_pos inside]

theorem longest_run_cons {p : Char → Bool} {kind : Char → Prop} (same : ∀ c, p c = true ↔ kind c)
    {c : Char} (first : kind c) (rest : Text) :
    Longest (many kind) (c :: rest) (c :: (run p rest).taken) := by
  have whole := longest_run same (c :: rest)
  rwa [run, List.takeWhile_cons_of_pos ((same c).2 first)] at whole

theorem longest_one {p : Char → Bool} {kind : Char → Prop} (same : ∀ c, p c = true ↔ kind c)
    (t : Text) : Longest (1 + Form.one kind) t (one p t).taken := by
  cases t with
  | nil => exact .of_nil (.inl rfl)
  | cons c rest =>
      rw [one]
      split
      · next holds =>
          refine ⟨⟨rest, rfl⟩, .inr ⟨c, (same c).1 holds, rfl⟩, ?_⟩
          rintro other _ (rfl | ⟨d, _, rfl⟩) <;> simp
      · next fails =>
          refine .nil (.inl rfl) ?_
          rintro other front (rfl | ⟨d, holds, rfl⟩)
          · rfl
          · have here := (List.cons_prefix_cons.1 front).1
            exact absurd ((same c).2 (here ▸ holds)) fails

/-! ## Block comments -/

theorem throughClose_closed_or_all (t : Text) :
    (∃ body, (throughClose t).taken = body ++ ['*', '/']) ∨
    (throughClose t).taken = t ∧ ∀ body after, t ≠ body ++ '*' :: '/' :: after := by
  induction t with
  | nil => exact .inr ⟨rfl, by simp⟩
  | cons c rest ih =>
      rw [throughClose]
      split
      · next closes =>
          obtain ⟨rfl, slash⟩ := closes
          obtain ⟨more, rfl⟩ := List.head?_eq_some_iff.1 slash
          exact .inl ⟨[], rfl⟩
      · next goesOn =>
          obtain ⟨body, closed⟩ | ⟨all, never⟩ := ih
          · exact .inl ⟨c :: body, by simp [preceded, closed]⟩
          · refine .inr ⟨by simp [preceded, all], fun body after same => ?_⟩
            cases body with
            | nil =>
                obtain ⟨rfl, rfl⟩ := List.cons.inj same
                exact goesOn ⟨rfl, rfl⟩
            | cons d body => exact never body after (List.cons.inj same).2

theorem length_throughClose_le (body after : Text) :
    (throughClose (body ++ '*' :: '/' :: after)).taken.length ≤ body.length + 2 := by
  induction body with
  | nil => simp [throughClose]
  | cons c body ih =>
      rw [List.cons_append, throughClose]
      split
      · simp only [List.length_cons, List.length_take]
        omega
      · simp only [preceded, List.length_append, List.length_cons, List.length_nil]
        omega

theorem untilClosed_throughClose (t : Text) :
    UntilClosed (between ['/', '*'] anything ['*', '/']) ('/' :: '*' :: t)
      ('/' :: '*' :: (throughClose t).taken) := by
  have isFront : (throughClose t).taken <+: t := ⟨_, splits_throughClose t⟩
  obtain ⟨body, closed⟩ | ⟨all, never⟩ := throughClose_closed_or_all t
  · refine .inl ⟨by simpa using isFront, mem_between.2 ⟨body, fun _ _ => trivial, ?_⟩, ?_⟩
    · rw [closed]; rfl
    · rintro other ⟨after, same⟩ member
      obtain ⟨inner, _, rfl⟩ := mem_between.1 member
      have split : t = inner ++ '*' :: '/' :: after := by simpa using same.symm
      have := length_throughClose_le inner after
      rw [← split] at this
      simpa using this
  · refine .inr ⟨by rw [all], ?_⟩
    rintro other ⟨after, same⟩ member
    obtain ⟨inner, _, rfl⟩ := mem_between.1 member
    exact never inner after (by simpa using same.symm)

/-! ## Strings -/

theorem throughQuote_of_quoted {body : Text} (h : body ∈ quoted) (after : Text) :
    throughQuote false (body ++ '"' :: after) = ⟨body ++ ['"'], after⟩ := by
  obtain ⟨parts, rfl, members⟩ := h
  induction parts with
  | nil => rfl
  | cons part parts ih =>
      have inner := ih fun y member => members y (List.mem_cons_of_mem part member)
      obtain ⟨c, ⟨quote, backslash⟩, rfl⟩ | ⟨_, rfl, _, ⟨c, _, rfl⟩, rfl⟩ :=
        members part List.mem_cons_self
      · simp [throughQuote, quote, backslash, inner, preceded]
      · simp [throughQuote, inner, preceded]

/-- A masked text reads like one with a backslash in front of it. -/
theorem throughQuote_closed_or_all (masked : Bool) (t : Text) :
    (∃ body, (throughQuote masked t).taken = body ++ ['"'] ∧
      (if masked then ['\\'] else []) ++ body ∈ quoted) ∨
    (throughQuote masked t).taken = t := by
  induction t generalizing masked with
  | nil => exact .inr rfl
  | cons c rest ih =>
      rw [throughQuote]
      split
      · next closes =>
          simp only [Bool.and_eq_true, Bool.not_eq_true', decide_eq_true_eq] at closes
          obtain ⟨rfl, rfl⟩ := closes
          exact .inl ⟨[], rfl, Language.nil_mem_kstar _⟩
      · next goesOn =>
          obtain ⟨body, closed, member⟩ | all := ih (!masked && c = '\\')
          · refine .inl ⟨c :: body, by simp [preceded, closed], ?_⟩
            cases masked with
            | true => exact masked_cons_mem_quoted member
            | false =>
                by_cases backslash : c = '\\'
                · simpa [backslash] using member
                · have quote : c ≠ '"' := by simpa using goesOn
                  simp only [backslash] at member
                  exact plain_cons_mem_quoted quote backslash member
          · exact .inr (by simp [preceded, all])

theorem untilClosed_throughQuote (t : Text) :
    UntilClosed (between ['"'] quoted ['"']) ('"' :: t) ('"' :: (throughQuote false t).taken) := by
  have isFront : (throughQuote false t).taken <+: t := ⟨_, splits_throughQuote false t⟩
  -- a closed front is all that the cut takes, so there is at most one
  have only : ∀ other, other <+: '"' :: t → other ∈ between ['"'] quoted ['"'] →
      other = '"' :: (throughQuote false t).taken := by
    rintro other ⟨after, same⟩ member
    obtain ⟨body, inner, rfl⟩ := mem_between.1 member
    have split : t = body ++ '"' :: after := by simpa using same.symm
    rw [split, throughQuote_of_quoted inner]
    rfl
  obtain ⟨body, closed, member⟩ | all := throughQuote_closed_or_all false t
  · refine .inl ⟨by simpa using isFront, mem_between.2 ⟨body, member, ?_⟩, ?_⟩
    · rw [closed]; rfl
    · intro other front inner
      rw [only other front inner]
  · by_cases closed : '"' :: (throughQuote false t).taken ∈ between ['"'] quoted ['"']
    · exact .inl ⟨by simpa using isFront, closed, fun other front inner => by
        rw [only other front inner]⟩
    · refine .inr ⟨by rw [all], fun other front inner => closed ?_⟩
      rwa [← only other front inner]

end Cut

end ShaderLens
