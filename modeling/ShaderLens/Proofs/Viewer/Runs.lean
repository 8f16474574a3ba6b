import Mathlib.Data.List.Chain
import ShaderLens.Proofs.Viewer.Row

/-!
# Runs of columns

The runs of a row (`Row.runs`) give each of its columns the style of the cell that covers it. No run
is empty, and neighbours differ in style, so no other runs say the same with fewer of them
(`Row.isRuns_runs`).
-/

namespace ShaderLens.Row

variable {Hue : Type}

/-- The style of each column of a row. -/
def columnStyles : Row Hue → List (Style Hue)
  | [] => []
  | cell :: rest => List.replicate cell.width cell.style ++ columnStyles rest

/-- The style of each column of some runs. -/
def unroll : List (Nat × Style Hue) → List (Style Hue)
  | [] => []
  | (columns, style) :: rest => List.replicate columns style ++ unroll rest

/-- The number of columns of all runs together. -/
def runsWidth : List (Nat × Style Hue) → Nat
  | [] => 0
  | (columns, _) :: rest => columns + runsWidth rest

/-- Runs that give columns their styles and are as long as they can be. -/
structure IsRuns (styles : List (Style Hue)) (runs : List (Nat × Style Hue)) : Prop where
  pos : ∀ run ∈ runs, 0 < run.1
  differ : runs.IsChain fun run next => run.2 ≠ next.2
  unroll_eq : unroll runs = styles

theorem length_columnStyles (row : Row Hue) : (columnStyles row).length = width row := by
  induction row with
  | nil => rfl
  | cons cell rest ih => simp [columnStyles, ih]

theorem length_unroll (runs : List (Nat × Style Hue)) : (unroll runs).length = runsWidth runs := by
  induction runs with
  | nil => rfl
  | cons run rest ih => simp [unroll, runsWidth, ih]

/-- The chain of differing styles does not depend on how long the first run is. -/
theorem isChain_cons_of_columns {columns more : Nat} {style : Style Hue}
    {rest : List (Nat × Style Hue)}
    (differ : ((more, style) :: rest).IsChain fun run next => run.2 ≠ next.2) :
    ((columns, style) :: rest).IsChain fun run next => run.2 ≠ next.2 := by
  cases rest with
  | nil => exact .singleton _
  | cons next rest =>
      obtain ⟨other, later⟩ := List.isChain_cons_cons.1 differ
      exact .cons_cons other later

/-- The cases are those of putting a cell in front: it covers no column, it begins the last run, it
joins the first run or it begins a run of its own. -/
theorem IsRuns.extendRuns [DecidableEq Hue] {styles : List (Style Hue)}
    {runs : List (Nat × Style Hue)} (isRuns : IsRuns styles runs) (columns : Nat) (style : Style Hue) :
    IsRuns (List.replicate columns style ++ styles) (extendRuns columns style runs) := by
  obtain ⟨pos, differ, rfl⟩ := isRuns
  obtain rfl | covers := Nat.eq_zero_or_pos columns
  · cases runs with
    | nil => exact ⟨pos, differ, rfl⟩
    | cons run rest => exact ⟨pos, differ, rfl⟩
  have nonzero : columns ≠ 0 := Nat.ne_of_gt covers
  cases runs with
  | nil =>
      rw [Row.extendRuns, if_neg nonzero]
      exact ⟨by simpa using covers, .singleton _, rfl⟩
  | cons run rest =>
      obtain ⟨more, next⟩ := run
      rw [Row.extendRuns, if_neg nonzero]
      by_cases same : next = style
      · subst same
        rw [if_pos rfl]
        refine ⟨?_, isChain_cons_of_columns differ, ?_⟩
        · rintro run (_ | ⟨_, member⟩)
          · exact Nat.add_pos_left covers more
          · exact pos run (List.mem_cons_of_mem _ member)
        · simp only [unroll, List.replicate_add, List.append_assoc]
      · rw [if_neg same]
        refine ⟨?_, .cons_cons (Ne.symm same) differ, rfl⟩
        rintro run (_ | ⟨_, member⟩)
        · exact covers
        · exact pos run member

theorem isRuns_runs [DecidableEq Hue] (row : Row Hue) : IsRuns (columnStyles row) (runs row) := by
  induction row with
  | nil => exact ⟨by simp [runs], .nil, rfl⟩
  | cons cell rest ih => exact ih.extendRuns cell.width cell.style

theorem runsWidth_runs [DecidableEq Hue] (row : Row Hue) : runsWidth (runs row) = width row := by
  rw [← length_unroll, (isRuns_runs row).unroll_eq, length_columnStyles]

end ShaderLens.Row
