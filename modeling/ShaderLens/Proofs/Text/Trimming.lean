import Mathlib.Data.List.DropRight
import ShaderLens.Text.Blank

/-!
# Trimming

Every text is a bare one with blanks on both sides of it, and trimming finds that one, however many
blanks there are (`trim_eq_iff`).
-/

namespace ShaderLens.Text

/-- The text is made of blanks only. -/
def Blanks (t : Text) : Prop :=
  ∀ c ∈ t, isBlank c

/-- There is no blank at an end of the text; inside of it there can be some. -/
structure Bare (t : Text) : Prop where
  head : ∀ c ∈ t.head?, ¬ isBlank c
  last : ∀ c ∈ t.getLast?, ¬ isBlank c

instance (t : Text) : Decidable t.Blanks :=
  decidable_of_iff (t.all isBlank = true) List.all_eq_true

theorem bare_iff {t : Text} :
    t.Bare ↔ t.head?.all (!isBlank ·) = true ∧ t.getLast?.all (!isBlank ·) = true := by
  simp only [Option.all_eq_true, Bool.not_eq_true', ← Bool.not_eq_true]
  constructor
  · intro bare
    exact ⟨bare.head, bare.last⟩
  · rintro ⟨head, last⟩
    exact ⟨head, last⟩

instance (t : Text) : Decidable t.Bare :=
  decidable_of_iff _ bare_iff.symm

variable {t u v name : Text}

theorem trimEnd_eq_rdropWhile (t : Text) : t.trimEnd = t.rdropWhile isBlank := rfl

theorem trimStart_append (blanks : u.Blanks) (t : Text) : (u ++ t).trimStart = t.trimStart :=
  List.dropWhile_append_of_pos blanks

theorem trimEnd_append (blanks : v.Blanks) (t : Text) : (t ++ v).trimEnd = t.trimEnd := by
  rw [trimEnd, trimEnd, List.reverse_append, List.dropWhile_append_of_pos]
  intro c member
  exact blanks c (List.mem_reverse.1 member)

/-- The text that blanks stand around is trimmed to the same. -/
theorem trim_surrounded (before : u.Blanks) (after : v.Blanks) (t : Text) :
    (u ++ t ++ v).trim = t.trim := by
  rw [List.append_assoc, trim, trim, trimStart_append before, trimStart, List.dropWhile_append]
  split
  · -- The text itself is made of blanks, so the blanks behind it are leading ones too.
    next nothing =>
      rw [trimStart, List.isEmpty_iff.1 nothing, List.dropWhile_eq_nil_iff.2 after]
  · exact trimEnd_append after _

theorem Bare.cons {c : Char} (solid : ¬ isBlank c) (bare : t.Bare) : Bare (c :: t) where
  head := by
    rintro _ ⟨⟩
    exact solid
  last := by
    cases t with
    | nil =>
        rintro _ ⟨⟩
        exact solid
    | cons d rest =>
        rw [List.getLast?_cons_cons]
        exact bare.last

theorem Bare.trim_eq (bare : t.Bare) : t.trim = t := by
  have start : t.trimStart = t := by
    cases t with
    | nil => rfl
    | cons c rest => exact List.dropWhile_cons_of_neg (bare.head c rfl)
  rw [trim, start, trimEnd_eq_rdropWhile, List.rdropWhile_eq_self_iff]
  intro nonempty
  exact bare.last _ (List.getLast?_eq_some_getLast nonempty)

theorem bare_trim (t : Text) : t.trim.Bare := by
  by_cases nothing : t.trim = []
  · rw [nothing]
    exact ⟨nofun, nofun⟩
  · constructor
    · intro c first
      have front : t.trim <+: t.trimStart := List.rdropWhile_prefix isBlank t.trimStart
      have solid := List.head_dropWhile_not isBlank (front.ne_nil nothing)
      rw [List.head?_eq_some_head nothing] at first
      obtain rfl := Option.some.inj first
      rw [front.head nothing]
      exact Bool.eq_false_iff.1 solid
    · intro c last
      have solid := List.rdropWhile_last_not isBlank t.trimStart nothing
      rw [List.getLast?_eq_some_getLast nothing] at last
      obtain rfl := Option.some.inj last
      exact solid

/-- What trimming takes away are blanks. -/
theorem exists_surroundings (t : Text) :
    ∃ u v : Text, u.Blanks ∧ v.Blanks ∧ t = u ++ t.trim ++ v := by
  refine ⟨t.takeWhile isBlank, t.trimStart.rtakeWhile isBlank, ?_, ?_, ?_⟩
  · exact fun c member => List.mem_takeWhile_imp member
  · exact fun c member => List.mem_rtakeWhile_imp member
  · have split : t.trim ++ t.trimStart.rtakeWhile isBlank = t.trimStart :=
      List.rdropWhile_append_rtakeWhile
    rw [List.append_assoc, split, trimStart, List.takeWhile_append_dropWhile]

/-- Trimming a text gives the bare one that it has between its blanks. -/
theorem trim_eq_iff :
    t.trim = name ↔ name.Bare ∧ ∃ u v : Text, u.Blanks ∧ v.Blanks ∧ t = u ++ name ++ v := by
  constructor
  · rintro rfl
    exact ⟨bare_trim t, exists_surroundings t⟩
  · rintro ⟨bare, u, v, before, after, rfl⟩
    rw [trim_surrounded before after, bare.trim_eq]

theorem trim_eq_nil_iff : t.trim = [] ↔ t.Blanks := by
  constructor
  · intro nothing
    obtain ⟨u, v, before, after, whole⟩ := exists_surroundings t
    rw [nothing, List.append_nil] at whole
    rw [whole]
    intro c member
    exact (List.mem_append.1 member).elim (before c) (after c)
  · intro blanks
    rw [trim, trimStart, List.dropWhile_eq_nil_iff.2 blanks]
    rfl

/-- Something is left of what comes behind the first character of a bare text, because the last
character is no blank. -/
theorem Bare.trim_tail_ne_nil {c : Char} (bare : Bare (c :: t)) (nonempty : t ≠ []) :
    t.trim ≠ [] := by
  intro nothing
  have blanks := trim_eq_nil_iff.1 nothing
  have last : t.getLast nonempty ∈ (c :: t).getLast? := by
    rw [List.getLast?_cons, List.getLast?_eq_some_getLast nonempty]
    rfl
  exact bare.last _ last (blanks _ (List.getLast_mem nonempty))

end ShaderLens.Text
