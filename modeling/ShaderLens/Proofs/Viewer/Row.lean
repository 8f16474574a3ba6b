import ShaderLens.Viewer.Row

/-!
# Rows cut at a width

`Row.fit` keeps the longest front of a row that is not too wide (`fit_isFront`, `isFront_fit`), and
`Row.exactly` fills what is left over, so its rows are as wide as they should be (`width_exactly`).
-/

namespace ShaderLens.Row

variable {Hue : Type}

/-- A row is cut at a width: the longest front that is not wider is kept, and the columns that are
left over are blank. -/
def IsCut (room : Nat) (blank : Cell Hue) (row cut : Row Hue) : Prop :=
  ∃ front, front <+: row ∧ width front ≤ room ∧
    (∀ longer, longer <+: row → width longer ≤ room → longer <+: front) ∧
    cut = front ++ List.replicate (room - width front) blank

@[simp] theorem width_nil : width ([] : Row Hue) = 0 := rfl

@[simp] theorem width_cons (cell : Cell Hue) (rest : Row Hue) :
    width (cell :: rest) = cell.width + width rest := rfl

@[simp] theorem width_append (a b : Row Hue) : width (a ++ b) = width a + width b := by
  induction a with
  | nil => simp
  | cons cell rest ih => simp [ih, Nat.add_assoc]

theorem width_replicate {cell : Cell Hue} (single : cell.width = 1) (n : Nat) :
    width (List.replicate n cell) = n := by
  induction n with
  | zero => rfl
  | succ n ih => simp [List.replicate_succ, single, ih, Nat.add_comm]

theorem width_fit_le (room : Nat) (row : Row Hue) : width (fit room row) ≤ room := by
  induction row generalizing room with
  | nil => exact Nat.zero_le room
  | cons cell rest ih =>
      rw [fit]
      split
      · next fits =>
          have later := ih (room - cell.width)
          rw [width_cons]
          omega
      · exact Nat.zero_le room

theorem fit_isFront (room : Nat) (row : Row Hue) : fit room row <+: row := by
  induction row generalizing room with
  | nil => exact List.prefix_rfl
  | cons cell rest ih =>
      rw [fit]
      split
      · exact List.cons_prefix_cons.2 ⟨rfl, ih _⟩
      · exact List.nil_prefix

/-- No front that fits is longer. -/
theorem isFront_fit {room : Nat} {front row : Row Hue} (isFront : front <+: row)
    (fits : width front ≤ room) : front <+: fit room row := by
  induction row generalizing room front with
  | nil => exact isFront
  | cons cell rest ih =>
      cases front with
      | nil => exact List.nil_prefix
      | cons cell' front =>
          obtain ⟨rfl, later⟩ := List.cons_prefix_cons.1 isFront
          rw [width_cons] at fits
          rw [fit, if_pos (by omega)]
          exact List.cons_prefix_cons.2 ⟨rfl, ih later (by omega)⟩

theorem isCut_exactly (room : Nat) (blank : Cell Hue) (row : Row Hue) :
    IsCut room blank row (exactly room blank row) :=
  ⟨fit room row, fit_isFront room row, width_fit_le room row, fun _ => isFront_fit, rfl⟩

theorem IsCut.head_mem {room : Nat} {blank cell : Cell Hue} {rest cut : Row Hue}
    (isCut : IsCut room blank (cell :: rest) cut) (fits : cell.width ≤ room) : cell ∈ cut := by
  obtain ⟨front, _, _, longest, rfl⟩ := isCut
  have kept : [cell] <+: front :=
    longest [cell] (List.cons_prefix_cons.2 ⟨rfl, List.nil_prefix⟩) fits
  exact List.mem_append_left _ (kept.subset (List.mem_singleton_self cell))

theorem width_exactly {blank : Cell Hue} (single : blank.width = 1) (room : Nat) (row : Row Hue) :
    width (exactly room blank row) = room := by
  have fits := width_fit_le room row
  rw [exactly, width_append, width_replicate single]
  omega

end ShaderLens.Row
