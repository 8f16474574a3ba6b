/-!
# Code point ranges

A set of code points is written as a list of closed ranges in ascending order. Because of the
order, a search can stop at the first range that begins after the code point it looks for, and
still finds every range (`Ranges.has_iff`).
-/

namespace ShaderLens

namespace Ranges

/-- Every range is nonempty and ends before the next one begins. -/
def ascending : List (Nat × Nat) → Bool
  | [] => true
  | [(lo, hi)] => lo ≤ hi
  | (lo, hi) :: (lo', hi') :: rest => lo ≤ hi && hi < lo' && ascending ((lo', hi') :: rest)

/-- Whether a code point lies in one of the ranges, where those that begin after it are not
looked at. -/
def search : List (Nat × Nat) → Nat → Bool
  | [], _ => false
  | (lo, hi) :: rest, n => if n < lo then false else n ≤ hi || search rest n

theorem search_of_lt_of_ascending {rs : List (Nat × Nat)} {lo hi n : Nat}
    (sorted : ascending ((lo, hi) :: rs)) (below : n < lo) : search rs n = false := by
  cases rs with
  | nil => rfl
  | cons r rest =>
      obtain ⟨lo', hi'⟩ := r
      simp only [ascending, Bool.and_eq_true, decide_eq_true_eq] at sorted
      rw [search, if_pos (by omega)]

/-- Stopping early loses nothing when the ranges ascend. -/
theorem search_iff_exists {rs : List (Nat × Nat)} (sorted : ascending rs) (n : Nat) :
    search rs n ↔ ∃ r ∈ rs, r.1 ≤ n ∧ n ≤ r.2 := by
  induction rs with
  | nil => simp [search]
  | cons r rest ih =>
      obtain ⟨lo, hi⟩ := r
      have tail : ascending rest := by
        cases rest with
        | nil => rfl
        | cons r' more =>
            simp only [ascending, Bool.and_eq_true] at sorted
            exact sorted.2
      have skipped := search_of_lt_of_ascending (n := n) sorted
      simp only [search, List.mem_cons, exists_eq_or_imp, ← ih tail]
      by_cases below : n < lo
      · simp [below, skipped below, Nat.not_le.2 below]
      · simp [below, Nat.le_of_not_lt below]

end Ranges

/-- A set of code points. -/
structure Ranges where
  bounds : List (Nat × Nat)
  sorted : Ranges.ascending bounds

namespace Ranges

def has (ranges : Ranges) (n : Nat) : Bool :=
  search ranges.bounds n

/-- The members are the code points between the two ends of a range. -/
theorem has_iff (ranges : Ranges) (n : Nat) :
    ranges.has n ↔ ∃ r ∈ ranges.bounds, r.1 ≤ n ∧ n ≤ r.2 :=
  search_iff_exists ranges.sorted n

end Ranges

end ShaderLens
