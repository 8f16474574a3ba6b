import ShaderLens.Text.Basic

/-!
# Counts

A count is a 64-bit number. It is written with ASCII digits, which a single plus sign may lead,
and sums and differences of counts stop at the ends of their range.
-/

namespace ShaderLens

namespace Count

/-- The largest count, one less than the 64th power of two. -/
def largest : Nat := 18446744073709551615

/-- The number that a list of digits stands for. -/
def ofDigits (digits : Text) : Nat :=
  digits.foldl (fun n d => 10 * n + (d.toNat - '0'.toNat)) 0

/-- Reads a count; a number that is too large is none. -/
def ofText? (t : Text) : Option UInt64 :=
  let digits := if t.head? = some '+' then t.drop 1 else t
  if digits ≠ [] ∧ digits.all Char.isDigit ∧ ofDigits digits ≤ largest then
    some (UInt64.ofNat (ofDigits digits))
  else none

/-- The sum of two counts, or the largest count if the sum is larger. -/
def add (a b : UInt64) : UInt64 :=
  UInt64.ofNat (min (a.toNat + b.toNat) largest)

/-- The difference of two counts, or zero if the second is larger. -/
def sub (a b : UInt64) : UInt64 :=
  UInt64.ofNat (a.toNat - b.toNat)

theorem toNat_add (a b : UInt64) : (add a b).toNat = min (a.toNat + b.toNat) largest := by
  rw [add, UInt64.toNat_ofNat_of_lt']
  simp only [largest, UInt64.size]
  omega

theorem toNat_sub (a b : UInt64) : (sub a b).toNat = a.toNat - b.toNat := by
  rw [sub, UInt64.toNat_ofNat_of_lt']
  have := a.toNat_lt_size
  omega

end Count

end ShaderLens
