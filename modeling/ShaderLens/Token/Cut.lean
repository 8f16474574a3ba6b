import ShaderLens.Text.Basic

/-!
# Cuts

A cut takes a part off the front of a text and leaves the rest. Each way of cutting here keeps
the text: the part taken and the rest, put together again, are the text (`Cut.Splits`). None of
them promises to take anything; what it does not find it leaves.
-/

namespace ShaderLens

structure Cut where
  taken : Text
  rest : Text
  deriving DecidableEq, Repr

namespace Cut

/-- The cut divides exactly the text `t`. -/
def Splits (cut : Cut) (t : Text) : Prop :=
  cut.taken ++ cut.rest = t

/-- Takes nothing. -/
def nothing (t : Text) : Cut :=
  ⟨[], t⟩

/-- Counts what stood before the text as taken too. -/
def preceded (front : Text) (cut : Cut) : Cut :=
  ⟨front ++ cut.taken, cut.rest⟩

/-- Goes on cutting what is left. -/
def andThen (cut : Cut) (next : Text → Cut) : Cut :=
  (next cut.rest).preceded cut.taken

/-- Takes the longest front all of whose characters satisfy `p`. -/
def run (p : Char → Bool) (t : Text) : Cut :=
  ⟨t.takeWhile p, t.dropWhile p⟩

/-- Takes the first character if it satisfies `p`. -/
def one (p : Char → Bool) : Text → Cut
  | [] => nothing []
  | c :: rest => if p c then ⟨[c], rest⟩ else nothing (c :: rest)

theorem splits_nothing (t : Text) : (nothing t).Splits t :=
  rfl

theorem Splits.preceded {cut : Cut} {t : Text} (h : cut.Splits t) (front : Text) :
    (cut.preceded front).Splits (front ++ t) := by
  simp only [Splits, Cut.preceded, List.append_assoc] at *
  rw [h]

theorem Splits.andThen {cut : Cut} {t : Text} {next : Text → Cut} (h : cut.Splits t)
    (step : (next cut.rest).Splits cut.rest) : (cut.andThen next).Splits t := by
  have joined := step.preceded cut.taken
  rwa [h] at joined

theorem splits_run (p : Char → Bool) (t : Text) : (run p t).Splits t :=
  List.takeWhile_append_dropWhile

theorem splits_one (p : Char → Bool) (t : Text) : (one p t).Splits t := by
  cases t with
  | nil => rfl
  | cons c rest => rw [one]; split <;> rfl

theorem Splits.length_rest_le {cut : Cut} {t : Text} (h : cut.Splits t) :
    cut.rest.length ≤ t.length := by
  rw [← h, List.length_append]
  omega

end Cut

end ShaderLens
