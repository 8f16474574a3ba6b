import ShaderLens.Text.Basic

/-!
# Lines

A line feed ends a line; what follows the last line feed is a line too, even when it is empty. So
a text with `n` line feeds has `n + 1` lines (`length_lines`).

Sequences of lines are joined by `joinLines`, which continues the last line of the first with the
first line of the second.
-/

namespace ShaderLens

/-- Puts items in front of the first line. -/
def continueLine {α : Type} (front : List α) : List (List α) → List (List α)
  | [] => [front]
  | line :: rest => (front ++ line) :: rest

/-- The lines of `a` followed by those of `b`, where the last line of `a` goes on with the first
line of `b`. -/
def joinLines {α : Type} : List (List α) → List (List α) → List (List α)
  | [], b => b
  | [line], b => continueLine line b
  | line :: next :: rest, b => line :: joinLines (next :: rest) b

namespace Text

/-- The stretches of a text between its separators. -/
def cutAt (separator : Char) : Text → List Text
  | [] => [[]]
  | c :: rest =>
      if c = separator then [] :: cutAt separator rest
      else continueLine [c] (cutAt separator rest)

/-- The lines of a text, cut at line feeds. -/
def lines (t : Text) : List Text :=
  cutAt '\n' t

/-- How many lines a text has. -/
def lineCount (t : Text) : Nat :=
  t.lines.length

theorem cutAt_ne_nil (separator : Char) (t : Text) : cutAt separator t ≠ [] := by
  cases t with
  | nil => simp [cutAt]
  | cons c rest =>
      rw [cutAt]
      split
      · simp
      · cases cutAt separator rest <;> simp [continueLine]

theorem lines_ne_nil (t : Text) : t.lines ≠ [] :=
  cutAt_ne_nil '\n' t

theorem length_continueLine {α : Type} {b : List (List α)} (front : List α) (nonempty : b ≠ []) :
    (continueLine front b).length = b.length := by
  cases b <;> simp_all [continueLine]

theorem length_cutAt (separator : Char) (t : Text) :
    (cutAt separator t).length = t.count separator + 1 := by
  induction t with
  | nil => rfl
  | cons c rest ih =>
      by_cases here : c = separator
      · simp [cutAt, here, ih]
      · simp [cutAt, here, length_continueLine [c] (cutAt_ne_nil separator rest), ih]

/-- There is one line more than there are line feeds. -/
theorem length_lines (t : Text) : t.lines.length = t.count '\n' + 1 :=
  length_cutAt '\n' t

theorem lineCount_pos (t : Text) : 0 < t.lineCount := by
  simp [lineCount, length_lines]

theorem joinLines_continueLine {α : Type} {a : List (List α)} (front : List α) (nonempty : a ≠ [])
    (b : List (List α)) :
    joinLines (continueLine front a) b = continueLine front (joinLines a b) := by
  match a, nonempty with
  | [line], _ => cases b <;> simp [continueLine, joinLines]
  | line :: next :: rest, _ => simp [continueLine, joinLines]

theorem joinLines_cons {α : Type} {rest : List (List α)} (line : List α) (nonempty : rest ≠ [])
    (b : List (List α)) : joinLines (line :: rest) b = line :: joinLines rest b := by
  match rest, nonempty with
  | next :: more, _ => rfl

theorem joinLines_empty {α : Type} {b : List (List α)} (nonempty : b ≠ []) :
    joinLines [[]] b = b := by
  cases b <;> simp_all [joinLines, continueLine]

end Text

end ShaderLens
