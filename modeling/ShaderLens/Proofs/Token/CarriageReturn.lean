import ShaderLens.Proofs.Token.Partition

/-!
# Carriage returns in front of line feeds

Carriage returns that are put in front of line feeds (`Returned`) get into tokens of several kinds,
but they never end one, begin one or change what a token is. Both texts are cut in step, a token off
each of them at a time (`Token.first_alike`): the tokens are equal once their carriage returns are
taken out, and what is left of one text is again what is left of the other with carriage returns put
in.
-/

namespace ShaderLens

/-- Whether the second text is the first one with carriage returns put in front of some of its line
feeds. -/
inductive Returned : Text → Text → Prop
  | nil : Returned [] []
  | cons (c : Char) {t u : Text} : Returned t u → Returned (c :: t) (c :: u)
  | feed {t u : Text} : Returned t u → Returned ('\n' :: t) ('\r' :: '\n' :: u)

namespace Text

/-- The text with a carriage return in front of every line feed. -/
def withReturns (t : Text) : Text :=
  t.flatMap fun c => if c = '\n' then ['\r', '\n'] else [c]

def withoutReturns (t : Text) : Text :=
  t.filter (· ≠ '\r')

@[simp] theorem withoutReturns_return (t : Text) :
    withoutReturns ('\r' :: t) = withoutReturns t := rfl

@[simp] theorem withoutReturns_append (s t : Text) :
    withoutReturns (s ++ t) = withoutReturns s ++ withoutReturns t :=
  List.filter_append ..

theorem withoutReturns_cons_congr (c : Char) {t u : Text}
    (same : withoutReturns t = withoutReturns u) :
    withoutReturns (c :: t) = withoutReturns (c :: u) := by
  rw [withoutReturns, withoutReturns, List.filter_cons, List.filter_cons, ← withoutReturns, same,
    ← withoutReturns]

theorem returned_withReturns (t : Text) : Returned t t.withReturns := by
  induction t with
  | nil => exact .nil
  | cons c rest ih =>
      by_cases feed : c = '\n'
      · subst feed
        exact .feed ih
      · rw [withReturns, List.flatMap_cons, if_neg feed]
        exact .cons c ih

end Text

/-- The token as it is without carriage returns. -/
def Token.withoutReturns (token : Token) : Token :=
  ⟨token.kind, token.text.withoutReturns⟩

namespace Returned

variable {t u : Text}

theorem append (front : Text) (h : Returned t u) : Returned (front ++ t) (front ++ u) := by
  induction front with
  | nil => exact h
  | cons c front ih => exact .cons c ih

theorem exists_of_cons {c : Char} (other : c ≠ '\n') (h : Returned (c :: t) u) :
    ∃ v, u = c :: v ∧ Returned t v := by
  cases h with
  | cons _ later => exact ⟨_, rfl, later⟩
  | feed _ => exact absurd rfl other

/-- Texts begin alike, unless they do so with a line break. -/
theorem head_iff {c : Char} (feed : c ≠ '\n') (back : c ≠ '\r') (h : Returned t u) :
    u.head? = some c ↔ t.head? = some c := by
  cases h with
  | nil => rfl
  | cons _ _ => rfl
  | feed _ => simp [feed.symm, back.symm]

end Returned

namespace Cut

/-- Cuts of texts that differ by carriage returns: these do so too. -/
structure Alike (cut other : Cut) : Prop where
  taken : cut.taken.withoutReturns = other.taken.withoutReturns
  rest : Returned cut.rest other.rest

/-- Cuts that take the same, and no carriage returns that are in one text only. -/
structure Level (cut other : Cut) : Prop where
  taken : cut.taken = other.taken
  rest : Returned cut.rest other.rest

variable {cut other : Cut} {t u : Text} {p : Char → Bool}

theorem Level.alike (h : Level cut other) : Alike cut other :=
  ⟨congrArg _ h.taken, h.rest⟩

theorem Level.preceded (h : Level cut other) (front : Text) :
    Level (cut.preceded front) (other.preceded front) :=
  ⟨congrArg (front ++ ·) h.taken, h.rest⟩

theorem Alike.preceded (h : Alike cut other) (front : Text) :
    Alike (cut.preceded front) (other.preceded front) := by
  refine ⟨?_, h.rest⟩
  simp only [Cut.preceded, Text.withoutReturns_append, h.taken]

theorem Level.andThen {next : Text → Cut} (h : Level cut other)
    (later : ∀ t u, Returned t u → Level (next t) (next u)) :
    Level (cut.andThen next) (other.andThen next) := by
  have step := (later _ _ h.rest).preceded cut.taken
  rwa [Cut.andThen, Cut.andThen, ← h.taken]

theorem level_nothing (h : Returned t u) : Level (nothing t) (nothing u) :=
  ⟨rfl, h⟩

/-- A run that no line break belongs to takes no carriage returns either. -/
theorem level_run (feed : p '\n' = false) (back : p '\r' = false) (h : Returned t u) :
    Level (run p t) (run p u) := by
  induction h with
  | nil => exact ⟨rfl, .nil⟩
  | @cons c t u later ih =>
      by_cases holds : p c
      · have step := ih.preceded [c]
        simpa [run, Cut.preceded, holds] using step
      · exact ⟨by simp [run, holds], by simpa [run, holds] using later.cons c⟩
  | feed later _ => exact ⟨by simp [run, feed, back], by simpa [run, feed, back] using later.feed⟩

/-- A run that goes over line feeds has to go over carriage returns too. -/
theorem alike_run (both : p '\n' → p '\r') (h : Returned t u) : Alike (run p t) (run p u) := by
  induction h with
  | nil => exact ⟨rfl, .nil⟩
  | @cons c t u later ih =>
      by_cases holds : p c
      · have step := ih.preceded [c]
        simpa [run, Cut.preceded, holds] using step
      · exact ⟨by simp [run, holds], by simpa [run, holds] using later.cons c⟩
  | @feed t u later ih =>
      by_cases feed : p '\n'
      · have step := ih.preceded ['\n']
        have back := both feed
        exact ⟨by simpa [run, Cut.preceded, feed, back] using step.taken,
          by simpa [run, Cut.preceded, feed, back] using step.rest⟩
      · -- the second text has lost its carriage return or still has it in front
        by_cases back : p '\r'
        · exact ⟨by simp [run, feed, back], by simpa [run, feed, back] using later.cons '\n'⟩
        · exact ⟨by simp [run, feed, back], by simpa [run, feed, back] using later.feed⟩

theorem level_one (feed : p '\n' = false) (back : p '\r' = false) (h : Returned t u) :
    Level (one p t) (one p u) := by
  cases h with
  | nil => exact ⟨rfl, .nil⟩
  | cons c later =>
      rw [one, one]
      split
      · exact ⟨rfl, later⟩
      · exact ⟨rfl, later.cons c⟩
  | feed later =>
      rw [one, one, feed, back]
      exact ⟨rfl, later.feed⟩

/-! ## Numbers -/

theorem level_leadAndDigits (lead : Text) (h : Returned t u) :
    Level (leadAndDigits lead t) (leadAndDigits lead u) := by
  have digits : Level (run Char.isDigit t) (run Char.isDigit u) := level_run rfl rfl h
  rw [leadAndDigits, leadAndDigits, digits.taken]
  split
  · exact ⟨rfl, h.append lead⟩
  · exact digits.preceded lead

theorem level_fraction (h : Returned t u) : Level (fraction t) (fraction u) := by
  cases h with
  | nil => exact ⟨rfl, .nil⟩
  | cons c later =>
      rw [fraction, fraction]
      split
      · exact level_leadAndDigits [c] later
      · exact ⟨rfl, later.cons c⟩
  | feed later => exact ⟨rfl, later.feed⟩

theorem level_exponent (h : Returned t u) : Level (exponent t) (exponent u) := by
  cases h with
  | nil => exact ⟨rfl, .nil⟩
  | @cons c t u later =>
      have sign : Level (one (fun s => s = '+' || s = '-') t)
          (one (fun s => s = '+' || s = '-') u) := level_one rfl rfl later
      simp only [exponent, sign.taken]
      split
      · exact level_leadAndDigits _ sign.rest
      · exact ⟨rfl, later.cons c⟩
  | feed later => exact ⟨rfl, later.feed⟩

theorem level_numberTail (h : Returned t u) : Level (numberTail t) (numberTail u) := by
  have digits : Level (run Char.isDigit t) (run Char.isDigit u) := level_run rfl rfl h
  have part := digits.andThen fun _ _ => level_fraction
  have power := part.andThen fun _ _ => level_exponent
  exact power.andThen fun _ _ => level_one (by decide) (by decide)

/-! ## Comments and strings -/

theorem alike_throughClose (h : Returned t u) : Alike (throughClose t) (throughClose u) := by
  induction h with
  | nil => exact ⟨rfl, .nil⟩
  | @cons c t u later ih =>
      have slash := later.head_iff (c := '/') (by decide) (by decide)
      rw [throughClose, throughClose]
      by_cases closes : c = '*' ∧ t.head? = some '/'
      · rw [if_pos closes, if_pos ⟨closes.1, slash.2 closes.2⟩]
        obtain ⟨more, rfl⟩ := List.head?_eq_some_iff.1 closes.2
        obtain ⟨more', rfl, behind⟩ := later.exists_of_cons (by decide)
        exact ⟨rfl, behind⟩
      · rw [if_neg closes, if_neg (mt (And.imp_right slash.1) closes)]
        exact ih.preceded [c]
  | feed later ih =>
      have step := ih.preceded ['\n']
      exact ⟨step.taken, step.rest⟩

/-- A carriage return that a backslash masks in place of the line feed makes no difference. -/
theorem alike_throughQuote (masked : Bool) (h : Returned t u) :
    Alike (throughQuote masked t) (throughQuote masked u) := by
  induction h generalizing masked with
  | nil => exact ⟨rfl, .nil⟩
  | cons c later ih =>
      rw [throughQuote, throughQuote]
      split
      · exact ⟨rfl, later⟩
      · exact (ih _).preceded [c]
  | feed later ih =>
      have step := (ih false).preceded ['\n']
      have goesOn (c : Char) (plain : c = '\n' ∨ c = '\r') (masked : Bool) (rest : Text) :
          throughQuote masked (c :: rest) = (throughQuote false rest).preceded [c] := by
        obtain rfl | rfl := plain <;> simp [throughQuote]
      rw [goesOn '\n' (.inl rfl), goesOn '\r' (.inr rfl), goesOn '\n' (.inl rfl)]
      exact ⟨step.taken, step.rest⟩

end Cut

namespace Opening

variable {c : Char} {t u : Text}

theorem of_returned (h : Returned t u) : of c u = of c t := by
  have star := h.head_iff (c := '*') (by decide) (by decide)
  have slash := h.head_iff (c := '/') (by decide) (by decide)
  simp only [of, star, slash]

theorem head_of_blockComment (h : of c t = blockComment) : t.head? = some '*' := by
  grind [of]

/-- The lexeme of an opening is the same but for carriage returns, and a word is just the same. -/
theorem alike_tail (h : Returned t u) :
    Cut.Alike ((of c t).tail t) ((of c t).tail u) ∧
      (of c t = word → ((of c t).tail t).taken = ((of c t).tail u).taken) := by
  cases opening : of c t with
  | blockComment =>
      obtain ⟨more, rfl⟩ := List.head?_eq_some_iff.1 (head_of_blockComment opening)
      obtain ⟨more', rfl, behind⟩ := h.exists_of_cons (by decide)
      exact ⟨(Cut.alike_throughClose behind).preceded ['*'], nofun⟩
  | lineComment => exact ⟨(Cut.level_run rfl rfl h).alike, nofun⟩
  | quote => exact ⟨Cut.alike_throughQuote false h, nofun⟩
  | directive => exact ⟨Cut.alike_run (by decide) h, nofun⟩
  | digit => exact ⟨(Cut.level_numberTail h).alike, nofun⟩
  | word =>
      have same : Cut.Level (Cut.run continuesWord t) (Cut.run continuesWord u) :=
        Cut.level_run rfl rfl h
      exact ⟨same.alike, fun _ => same.taken⟩
  | blank => exact ⟨Cut.alike_run (by decide) h, nofun⟩
  | operator => exact ⟨(Cut.level_one rfl rfl h).alike, nofun⟩
  | choice | punctuation | stray => exact ⟨(Cut.level_nothing h).alike, nofun⟩

theorem kind_congr {opening : Opening} {lexeme lexeme' : Text}
    (same : opening = word → lexeme = lexeme') : opening.kind lexeme = opening.kind lexeme' := by
  cases opening with
  | word => rw [same rfl]
  | blockComment | lineComment | quote | directive | digit | blank | operator | choice | punctuation
  | stray => rfl

end Opening

namespace Token

variable {t u : Text}

/-- One step of both cuts: the tokens are alike, and so is what is left. -/
theorem first_alike (c : Char) (h : Returned t u) :
    (first c t).1.withoutReturns = (first c u).1.withoutReturns ∧
      Returned (first c t).2 (first c u).2 := by
  obtain ⟨alike, level⟩ := Opening.alike_tail (c := c) h
  have opening : Opening.of c u = Opening.of c t := Opening.of_returned h
  have text := Text.withoutReturns_cons_congr c alike.taken
  have kind : (first c t).1.kind = (first c u).1.kind := by
    simp only [first, opening]
    apply Opening.kind_congr
    intro word
    rw [level word]
  constructor
  · unfold withoutReturns
    rw [kind]
    simp only [first, opening, text]
  · simp only [first, opening]
    exact alike.rest

/-- A line break begins whitespace, with or without a carriage return. -/
theorem first_break_alike (h : Returned t u) :
    (first '\n' t).1.withoutReturns = (first '\r' ('\n' :: u)).1.withoutReturns ∧
      Returned (first '\n' t).2 (first '\r' ('\n' :: u)).2 := by
  have feed : first '\n' t =
      (⟨.whitespace, (Cut.run isBlank ('\n' :: t)).taken⟩,
        (Cut.run isBlank ('\n' :: t)).rest) := rfl
  have back : first '\r' ('\n' :: u) =
      (⟨.whitespace, (Cut.run isBlank ('\r' :: '\n' :: u)).taken⟩,
        (Cut.run isBlank ('\r' :: '\n' :: u)).rest) := rfl
  have blanks : Cut.Alike (Cut.run isBlank ('\n' :: t)) (Cut.run isBlank ('\r' :: '\n' :: u)) :=
    Cut.alike_run (by decide) h.feed
  rw [feed, back]
  exact ⟨congrArg (Token.mk .whitespace) blanks.taken, blanks.rest⟩

end Token

/-- Cut in step, the texts have the same tokens but for carriage returns. -/
theorem Returned.map_withoutReturns_tokens {t u : Text} (h : Returned t u) :
    t.tokens.map Token.withoutReturns = u.tokens.map Token.withoutReturns := by
  induction t using Text.tokens.induct generalizing u with
  | case1 =>
      cases h
      rfl
  | case2 c rest ih =>
      cases h with
      | cons _ later =>
          obtain ⟨token, behind⟩ := Token.first_alike c later
          rw [Text.tokens_cons, Text.tokens_cons, List.map_cons, List.map_cons, token, ih behind]
      | feed later =>
          obtain ⟨token, behind⟩ := Token.first_break_alike later
          rw [Text.tokens_cons, Text.tokens_cons, List.map_cons, List.map_cons, token, ih behind]

end ShaderLens
