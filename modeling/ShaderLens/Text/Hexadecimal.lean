import ShaderLens.Text.Basic

/-!
# Hexadecimal numerals

Numerals in base sixteen with small letters and no leading zero, apart from zero itself.
-/

namespace ShaderLens.Hexadecimal

/-- The digit for a number below sixteen. -/
def digit (n : Nat) : Char :=
  if n < 10 then Char.ofNat ('0'.toNat + n) else Char.ofNat ('a'.toNat + (n - 10))

def numeral (n : Nat) : Text :=
  if n < 16 then [digit n] else numeral (n / 16) ++ [digit (n % 16)]
termination_by n
decreasing_by omega

theorem numeral_ne_nil (n : Nat) : numeral n ≠ [] := by
  rw [numeral]
  split <;> simp

end ShaderLens.Hexadecimal
