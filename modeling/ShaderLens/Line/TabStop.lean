import ShaderLens.Text.Width

/-!
# Tab stops

What a terminal shows for the characters of a line, which depends on the column a character
begins in: a tab reaches to the next tab stop, a carriage return vanishes, and every other
control character is replaced, so that none of them gets to the terminal.
-/

namespace ShaderLens.TabStop

/-- The mark shown in place of a control character. -/
def replacement : Char := '\uFFFD'

/-- What is shown for a character that begins in the given column, with a tab stop every `every`
columns. -/
def shown (every column : Nat) (c : Char) : Text :=
  if c = '\t' then List.replicate (every - column % every) ' '
  else if c = '\r' then []
  else if isControl c then [replacement]
  else [c]

/-- What is shown for a text that begins in the given column. -/
def expand (every column : Nat) : Text → Text
  | [] => []
  | c :: rest =>
      let front := shown every column c
      front ++ expand every (column + front.width) rest

/-- The column after a text that begins in the given column. -/
def columnAfter (every column : Nat) (t : Text) : Nat :=
  column + (expand every column t).width

theorem charWidth_replacement : charWidth replacement = 1 := by decide +kernel

theorem expand_append (every column : Nat) (s t : Text) :
    expand every column (s ++ t) =
      expand every column s ++ expand every (columnAfter every column s) t := by
  induction s generalizing column with
  | nil => simp [expand, columnAfter]
  | cons c rest ih => simp [expand, columnAfter, ih, Nat.add_assoc]

end ShaderLens.TabStop
