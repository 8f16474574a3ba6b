import Mathlib.Data.Nat.Digits.Defs
import ShaderLens.Text.Count

/-!
# Counts in decimal notation

Reading a count takes just the texts that denote one: digits to the base ten, most significant digit
first, with or without a plus sign in front (`ofText?_eq_some_iff`).
-/

namespace ShaderLens.Count

/-- The text is a decimal numeral for the count. -/
def Denotes (t : Text) (n : UInt64) : Prop :=
  ∃ digits : Text, (t = digits ∨ t = '+' :: digits) ∧ digits ≠ [] ∧ (∀ d ∈ digits, d.isDigit) ∧
    Nat.ofDigits 10 (digits.reverse.map fun d => d.toNat - '0'.toNat) = n.toNat

theorem ofDigits_eq (digits : Text) :
    ofDigits digits = Nat.ofDigits 10 (digits.reverse.map fun d => d.toNat - '0'.toNat) := by
  rw [Nat.ofDigits_eq_foldr, List.foldr_map, List.foldr_reverse, ofDigits]
  simp only [Nat.cast_id, Nat.add_comm]

/-- Nothing but a sign can stand in front of the digits. -/
theorem digits_of_denotes {t digits : Text} (text : t = digits ∨ t = '+' :: digits)
    (all : ∀ d ∈ digits, d.isDigit) :
    (if t.head? = some '+' then t.drop 1 else t) = digits := by
  obtain rfl | rfl := text
  · rw [if_neg]
    intro sign
    have digit := all '+' (List.mem_of_head? sign)
    revert digit
    decide
  · rfl

theorem ofText?_eq_some_iff {t : Text} {n : UInt64} : ofText? t = some n ↔ Denotes t n := by
  constructor
  · intro read
    simp only [ofText?, Option.ite_none_right_eq_some, Option.some.injEq] at read
    obtain ⟨⟨nonempty, all, fits⟩, rfl⟩ := read
    refine ⟨_, ?_, nonempty, by simpa using all, ?_⟩
    · split
      · next sign =>
          obtain ⟨rest, rfl⟩ := List.head?_eq_some_iff.1 sign
          exact .inr rfl
      · exact .inl rfl
    · rw [← ofDigits_eq, UInt64.toNat_ofNat_of_lt']
      exact Nat.lt_succ_of_le fits
  · rintro ⟨digits, text, nonempty, all, value⟩
    have fits : ofDigits digits ≤ largest := by
      rw [ofDigits_eq, value]
      exact Nat.le_of_lt_succ n.toNat_lt
    simp only [ofText?, digits_of_denotes text all]
    rw [if_pos ⟨nonempty, by simpa using all, fits⟩, ofDigits_eq, value, UInt64.ofNat_toNat]

/-- A text that is no numeral is not read. -/
theorem ofText?_eq_none_iff {t : Text} : ofText? t = none ↔ ∀ n, ¬ Denotes t n := by
  simp only [Option.eq_none_iff_forall_ne_some, ne_eq, ofText?_eq_some_iff]

end ShaderLens.Count
