import Mathlib.Data.List.Basic
import ShaderLens.Text.Lines

/-!
# Joining lines

A line of joined lines is what the first part has of it and what the second part has
(`getD_joinLines`), and what is done to the items of lines can be done before or after they are
joined (`map_joinLines`). A list that is put together from two falls into the joined lines of both
when it is cut at separators (`splitOnP_append`), and so does a text (`lines_append`).

The lines of the first part but its last one come first (`dropLast_isFront_joinLines`). Lines put in
front do not change which of those behind them are finished (`joinLines_isFront`).
-/

namespace ShaderLens

variable {α β : Type} {a b : List (List α)}

theorem continueLine_ne_nil (front : List α) (b : List (List α)) : continueLine front b ≠ [] := by
  cases b <;> simp [continueLine]

/-- Only the last line of the first part goes on. -/
theorem joinLines_concat (lines : List (List α)) (last : List α) (b : List (List α)) :
    joinLines (lines ++ [last]) b = lines ++ continueLine last b := by
  induction lines with
  | nil => rfl
  | cons line rest ih =>
      have more : rest ++ [last] ≠ [] := by simp
      rw [List.cons_append, Text.joinLines_cons line more, ih, List.cons_append]

theorem joinLines_ne_nil (hb : b ≠ []) : joinLines a b ≠ [] := by
  obtain rfl | ⟨lines, last, rfl⟩ := List.eq_nil_or_concat' a
  · exact hb
  · rw [joinLines_concat]
    exact List.append_ne_nil_of_right_ne_nil lines (continueLine_ne_nil last b)

theorem joinLines_nothing (ha : a ≠ []) : joinLines a [[]] = a := by
  obtain rfl | ⟨lines, last, rfl⟩ := List.eq_nil_or_concat' a
  · exact absurd rfl ha
  · rw [joinLines_concat, continueLine, List.append_nil]

/-- A line of joined lines is what the first part has of it and what the second part has. -/
theorem getD_joinLines (ha : a ≠ []) (hb : b ≠ []) (k : Nat) :
    (joinLines a b).getD k [] =
      a.getD k [] ++ if a.length ≤ k + 1 then b.getD (k + 1 - a.length) [] else [] := by
  obtain ⟨first, later, rfl⟩ := List.exists_cons_of_ne_nil hb
  obtain rfl | ⟨lines, last, rfl⟩ := List.eq_nil_or_concat' a
  · exact absurd rfl ha
  · rw [joinLines_concat, continueLine, List.length_append, List.length_singleton,
      Nat.add_sub_add_right]
    simp only [List.getD_eq_getElem?_getD, Nat.add_le_add_iff_right]
    by_cases inside : k < lines.length
    · rw [List.getElem?_append_left inside, List.getElem?_append_left inside, if_neg (by omega),
        List.append_nil]
    · rw [List.getElem?_append_right (by omega), List.getElem?_append_right (by omega),
        if_pos (by omega)]
      cases k - lines.length <;> simp

theorem map_joinLines (f : List α → List β) (hom : ∀ x y, f (x ++ y) = f x ++ f y) (hb : b ≠ []) :
    (joinLines a b).map f = joinLines (a.map f) (b.map f) := by
  obtain ⟨first, later, rfl⟩ := List.exists_cons_of_ne_nil hb
  obtain rfl | ⟨lines, last, rfl⟩ := List.eq_nil_or_concat' a
  · rfl
  · rw [joinLines_concat, List.map_append, List.map_append, List.map_singleton, joinLines_concat]
    simp [continueLine, hom]

/-! ## Cutting at separators -/

theorem splitOnP_cons (p : α → Bool) (x : α) (rest : List α) :
    (x :: rest).splitOnP p =
      if p x then [] :: rest.splitOnP p else continueLine [x] (rest.splitOnP p) := by
  obtain ⟨first, later, same⟩ := List.exists_cons_of_ne_nil (List.splitOnP_ne_nil p rest)
  rw [List.splitOnP_cons_eq_if_modifyHead, same]
  rfl

theorem splitOnP_append (p : α → Bool) (s t : List α) :
    (s ++ t).splitOnP p = joinLines (s.splitOnP p) (t.splitOnP p) := by
  induction s with
  | nil => rw [List.nil_append, List.splitOnP_nil, Text.joinLines_empty (List.splitOnP_ne_nil p t)]
  | cons x rest ih =>
      have nonempty := List.splitOnP_ne_nil p rest
      rw [List.cons_append, splitOnP_cons, ih, splitOnP_cons]
      split
      · rw [Text.joinLines_cons [] nonempty]
      · rw [Text.joinLines_continueLine [x] nonempty]

theorem map_splitOnP (f : α → β) (p : β → Bool) (l : List α) :
    (l.splitOnP fun x => p (f x)).map (List.map f) = (l.map f).splitOnP p := by
  induction l with
  | nil => simp [List.splitOnP_nil]
  | cons x rest ih =>
      rw [List.map_cons, splitOnP_cons, splitOnP_cons, ← ih]
      split
      · rfl
      · cases rest.splitOnP fun x => p (f x) <;> rfl

namespace Text

/-- The lines of a text are its stretches between line feeds. -/
theorem lines_eq_splitOn (t : Text) : t.lines = t.splitOn '\n' := by
  rw [List.splitOn_eq_splitOnP]
  induction t with
  | nil => rfl
  | cons c rest ih => simp [splitOnP_cons, ← ih, lines, cutAt]

/-- Cutting into lines takes texts put one after the other to lines joined one to the other. -/
theorem lines_append (s t : Text) : lines (s ++ t) = joinLines (lines s) (lines t) := by
  simp only [lines_eq_splitOn, List.splitOn_eq_splitOnP]
  exact splitOnP_append _ s t

end Text

/-! ## Finished lines -/

theorem dropLast_isFront_joinLines (a b : List (List α)) :
    a.dropLast <+: (joinLines a b).dropLast := by
  obtain rfl | ⟨lines, last, rfl⟩ := List.eq_nil_or_concat' a
  · exact List.nil_prefix
  · rw [joinLines_concat, List.dropLast_concat,
      List.dropLast_append_of_ne_nil (continueLine_ne_nil last b)]
    exact List.prefix_append lines _

theorem continueLine_isFront (front : List α) (ha : a ≠ []) (hb : b ≠ [])
    (finished : a.dropLast <+: b) : (continueLine front a).dropLast <+: continueLine front b := by
  obtain ⟨line, rest, rfl⟩ := List.exists_cons_of_ne_nil ha
  obtain ⟨line', rest', rfl⟩ := List.exists_cons_of_ne_nil hb
  by_cases single : rest = []
  · subst single
    exact List.nil_prefix
  · rw [List.dropLast_cons_of_ne_nil single, List.cons_prefix_cons] at finished
    obtain ⟨rfl, same⟩ := finished
    rw [continueLine, continueLine, List.dropLast_cons_of_ne_nil single]
    exact List.cons_prefix_cons.2 ⟨rfl, same⟩

theorem joinLines_isFront (c : List (List α)) (ha : a ≠ []) (hb : b ≠ [])
    (finished : a.dropLast <+: b) : (joinLines c a).dropLast <+: joinLines c b := by
  obtain rfl | ⟨lines, last, rfl⟩ := List.eq_nil_or_concat' c
  · exact finished
  · rw [joinLines_concat, joinLines_concat,
      List.dropLast_append_of_ne_nil (continueLine_ne_nil last a), List.prefix_append_right_inj]
    exact continueLine_isFront last ha hb finished

end ShaderLens
