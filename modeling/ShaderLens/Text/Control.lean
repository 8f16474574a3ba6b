/-!
# Control characters
-/

namespace ShaderLens

/-- Whether a character is of category Cc: one of the first 32, or one from DELETE to the end of
the second control block. -/
def isControl (c : Char) : Bool :=
  c.toNat < 0x20 || (0x7F ≤ c.toNat && c.toNat < 0xA0)

end ShaderLens
