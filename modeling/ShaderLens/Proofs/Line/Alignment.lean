import Mathlib.Data.List.Forall2
import Mathlib.Order.Bounds.Basic
import ShaderLens.Proofs.Line.Expansion

/-!
# Tabs reach to tab stops

The column that a line is expanded with is the width of what the line shows so far, wide characters,
replaced and vanished ones counted as they are shown. So a tab always ends at the first tab stop
behind what stands before it (`TabStop.Shows`), and no control character is left. In 64-bit numbers
the columns can be counted without a failure as long as the line has no more of them than such a
number can hold (`TabStop.counted?_eq`).
-/

namespace ShaderLens

variable {Hue : Type}

theorem charWidth_le (c : Char) : charWidth c ≤ 3 := by
  rw [charWidth]
  split
  · decide
  · split
    · decide
    · split
      · decide
      · decide

theorem isControl_iff {c : Char} :
    isControl c ↔ c.toNat ≤ 0x1F ∨ 0x7F ≤ c.toNat ∧ c.toNat ≤ 0x9F := by
  simp only [isControl, Bool.or_eq_true, Bool.and_eq_true, decide_eq_true_eq]
  omega

namespace TabStop

/-- What stands on a line for a character, with `before` what stands there for the characters in
front of it. -/
inductive Stands (every : Nat) (before : Text) : Char → Text → Prop
  | tab (spaces : Nat) (one : 1 ≤ spaces) (most : spaces ≤ every)
      (stop : IsLeast {stop | every ∣ stop ∧ before.width < stop}
        (before ++ List.replicate spaces ' ').width) :
      Stands every before '\t' (List.replicate spaces ' ')
  | carriageReturn : Stands every before '\r' []
  | control (c : Char) (control : isControl c) (noTab : c ≠ '\t') (noReturn : c ≠ '\r') :
      Stands every before c [replacement]
  | plain (c : Char) (noControl : ¬ isControl c) : Stands every before c [c]

/-- What stands on a line for some characters, behind what stands there for those in front. -/
inductive Shows (every : Nat) : (before line shown : Text) → Prop
  | nil (before : Text) : Shows every before [] []
  | cons (before part shown : Text) (c : Char) (line : Text) (stands : Stands every before c part)
      (later : Shows every (before ++ part) line shown) :
      Shows every before (c :: line) (part ++ shown)

section

variable {every : Nat}

theorem isLeast_stop (positive : 0 < every) (column : Nat) :
    IsLeast {stop | every ∣ stop ∧ column < stop} (stop every column) := by
  constructor
  · constructor
    · exact Nat.dvd_mul_left _ _
    · rw [stop, Nat.mul_comm]
      exact Nat.lt_mul_div_succ column positive
  · rintro _ ⟨⟨k, rfl⟩, behind⟩
    rw [stop, Nat.mul_comm]
    apply Nat.mul_le_mul_left
    exact Nat.div_lt_of_lt_mul behind

theorem stands_shown (positive : 0 < every) (before : Text) (c : Char) :
    Stands every before c (shown every before.width c) := by
  rw [shown]
  split
  · next tab =>
      subst tab
      have part := Nat.mod_lt before.width positive
      apply Stands.tab
      · omega
      · omega
      · rw [Text.width_append, Text.width_spaces, ← stop_eq positive]
        exact isLeast_stop positive before.width
  · next noTab =>
      split
      · next back =>
          subst back
          exact .carriageReturn
      · next noReturn =>
          split
          · next control => exact .control c control noTab noReturn
          · next noControl => exact .plain c noControl

/-- A line is expanded in the columns of what is shown. -/
theorem shows_expand (positive : 0 < every) (before line : Text) :
    Shows every before line (expand every before.width line) := by
  induction line generalizing before with
  | nil => exact .nil before
  | cons c rest ih =>
      apply Shows.cons
      · exact stands_shown positive before c
      · rw [← Text.width_append]
        exact ih _

theorem not_isControl_of_mem_expand {column : Nat} {line : Text} {c : Char}
    (member : c ∈ expand every column line) : ¬ isControl c := by
  induction line generalizing column with
  | nil => exact absurd member List.not_mem_nil
  | cons first rest ih =>
      obtain here | later := List.mem_append.1 member
      · revert here
        rw [shown]
        split
        · intro space
          rw [List.eq_of_mem_replicate space]
          decide
        · split
          · intro nothing
            exact absurd nothing List.not_mem_nil
          · split
            · intro mark
              rw [List.mem_singleton.1 mark]
              decide
            · next noControl =>
                intro same
                rwa [List.mem_singleton.1 same]
      · exact ih later

end

/-! ## Counting columns in 64 bits -/

/-- The remainder, unless the division is by zero. -/
def remainder? (a b : UInt64) : Option UInt64 :=
  if b = 0 then none else some (a % b)

/-- The difference, unless it is negative. -/
def difference? (a b : UInt64) : Option UInt64 :=
  if a < b then none else some (a - b)

/-- The sum, unless it is too large. -/
def sum? (a b : UInt64) : Option UInt64 :=
  if a.toNat + b.toNat < UInt64.size then some (a + b) else none

/-- What is shown for a character that begins in the given column, and the column behind it, unless
an operation on 64-bit numbers fails. -/
def countedShown? (every column : UInt64) (c : Char) : Option (Text × UInt64) :=
  if c = '\t' then do
    let spaces ← difference? every (← remainder? column every)
    return (List.replicate spaces.toNat ' ', ← sum? column spaces)
  else if c = '\r' then some ([], column)
  else if isControl c then do
    return ([replacement], ← sum? column 1)
  else do
    return ([c], ← sum? column (.ofNat (charWidth c)))

/-- What is shown for a text that begins in the given column, unless an operation fails. -/
def counted? (every : UInt64) : UInt64 → Text → Option Text
  | _, [] => some []
  | column, c :: rest => do
      let (front, next) ← countedShown? every column c
      return front ++ (← counted? every next rest)

variable {every : UInt64}

/-- The column behind some text, unless it is too large. -/
theorem sum?_width {column columns : UInt64} {part : Text} (width : columns.toNat = part.width) :
    (do return (part, ← sum? column columns)) =
      if column.toNat + part.width < UInt64.size then
        some (part, .ofNat (column.toNat + part.width))
      else none := by
  rw [sum?, width]
  split
  · rw [← width, UInt64.ofNat_add, UInt64.ofNat_toNat, UInt64.ofNat_toNat]
    rfl
  · rfl

/-- Up to the next tab stop there is something left to subtract, and to divide by. -/
theorem exists_difference? (positive : 0 < every.toNat) (column : UInt64) :
    ∃ part spaces, remainder? column every = some part ∧ difference? every part = some spaces ∧
      spaces.toNat = every.toNat - column.toNat % every.toNat := by
  have nonzero : every ≠ 0 := by
    rintro rfl
    exact absurd positive (by decide)
  have part : (column % every).toNat < every.toNat := by
    rw [UInt64.toNat_mod]
    exact Nat.mod_lt _ positive
  have covers : column % every ≤ every := UInt64.le_iff_toNat_le.2 (Nat.le_of_lt part)
  refine ⟨column % every, every - column % every, if_neg nonzero, if_neg ?_, ?_⟩
  · rw [UInt64.lt_iff_toNat_lt]
    exact Nat.lt_asymm part
  · rw [UInt64.toNat_sub_of_le _ _ covers, UInt64.toNat_mod]

theorem countedShown?_eq (positive : 0 < every.toNat) (column : UInt64) (c : Char) :
    countedShown? every column c =
      let part := shown every.toNat column.toNat c
      if column.toNat + part.width < UInt64.size then
        some (part, .ofNat (column.toNat + part.width))
      else none := by
  rw [countedShown?, shown]
  split
  · obtain ⟨part, spaces, divides, subtracts, count⟩ := exists_difference? positive column
    simp only [divides, subtracts, Option.bind_eq_bind, Option.bind_some, ← count]
    exact sum?_width (Text.width_spaces _).symm
  · split
    · simp [column.toNat_lt]
    · split
      · apply sum?_width
        rw [Text.width_cons, charWidth_replacement]
        rfl
      · apply sum?_width
        rw [UInt64.toNat_ofNat_of_lt' (Nat.lt_of_le_of_lt (charWidth_le c) (by decide))]
        rfl

/-- Counting fails just where the columns of the line do not fit, and else shows the expansion. -/
theorem counted?_eq (positive : 0 < every.toNat) (column : UInt64) (line : Text) :
    counted? every column line =
      let whole := expand every.toNat column.toNat line
      if column.toNat + whole.width < UInt64.size then some whole else none := by
  induction line generalizing column with
  | nil => simp [counted?, expand, column.toNat_lt]
  | cons c rest ih =>
      simp only [counted?, countedShown?_eq positive, expand, Text.width_append]
      by_cases fits : column.toNat + (shown every.toNat column.toNat c).width < UInt64.size
      · simp only [if_pos fits, ih, UInt64.toNat_ofNat_of_lt' fits, Option.bind_eq_bind,
          Option.bind_some, ← Nat.add_assoc]
        split <;> rfl
      · rw [if_neg fits, if_neg (by omega)]
        rfl

/-- With a tab width of zero there would be a division by zero. -/
example : counted? 0 0 "a\t".toList = none := by
  decide +kernel

end TabStop

namespace Display

/-- What holds of a line that shows a stretch of text between line feeds: its tabs reach to tab
stops, there is no control character on it, and its columns can be counted if there are not too
many. -/
structure Aligned (every : UInt64) (segment : Text) (line : List (Span Hue)) : Prop where
  shows : TabStop.Shows every.toNat [] segment (plain line)
  noControl : ∀ span ∈ line, ∀ c ∈ span.content,
    ¬ (c.toNat ≤ 0x1F ∨ 0x7F ≤ c.toNat ∧ c.toNat ≤ 0x9F)
  counted : TabStop.counted? every 0 segment =
    if (plain line).width < UInt64.size then some (plain line) else none

theorem aligned_of_plain {every : UInt64} {segment : Text} {line : List (Span Hue)}
    (positive : 0 < every.toNat)
    (expands : plain line = TabStop.expand every.toNat 0 segment) :
    Aligned every segment line := by
  constructor
  · rw [expands]
    exact TabStop.shows_expand positive [] segment
  · intro span member c inside
    have on_line : c ∈ plain line := List.mem_flatMap.2 ⟨span, member, inside⟩
    rw [expands] at on_line
    rw [← isControl_iff]
    exact TabStop.not_isControl_of_mem_expand on_line
  · have counted := TabStop.counted?_eq positive 0 segment
    simpa only [UInt64.toNat_zero, Nat.zero_add, ← expands] using counted

end Display

/-- **Tabs reach to tab stops.** A tab width of zero counts as one. On the line for each stretch of
text between line feeds, whichever tokens it is cut into, a tab is as many spaces, from one to the
tab width, as it takes for the line up to there to be as wide as the first tab stop behind what
stands before. Carriage returns show nothing, other control characters the mark, and all other
characters themselves, so no control character is left. Counting the columns in 64-bit numbers
divides by zero or falls below zero nowhere, and fails only if the line is wider than such a number
can tell. -/
theorem tabs_reach_stops (palette : Palette Hue) (tabWidth : UInt64) (tokens : List Token) :
    List.Forall₂ (Display.Aligned (max tabWidth 1)) ((Token.join tokens).splitOn '\n')
      (Display.lines palette tabWidth.toNat tokens) := by
  have every : (max tabWidth 1).toNat = max tabWidth.toNat 1 := by
    change (if tabWidth ≤ 1 then 1 else tabWidth).toNat = max tabWidth.toNat 1
    split
    · next zero =>
        exact (Nat.max_eq_right (UInt64.le_iff_toNat_le.1 zero)).symm
    · next more =>
        rw [UInt64.le_iff_toNat_le] at more
        exact (Nat.max_eq_left (Nat.le_of_not_le more)).symm
  have same : List.Forall₂ Eq
      ((Display.lines palette tabWidth.toNat tokens).map Display.plain)
      (((Token.join tokens).splitOn '\n').map (TabStop.expand (max tabWidth.toNat 1) 0)) := by
    rw [Display.map_plain_lines, List.forall₂_eq_eq_eq]
  rw [List.forall₂_map_left_iff, List.forall₂_map_right_iff] at same
  apply same.flip.imp
  intro segment line expands
  apply Display.aligned_of_plain
  · rw [every]
    omega
  · rw [every]
    exact expands

end ShaderLens
