import ShaderLens.Text.Basic
import ShaderLens.Text.Ranges

/-!
# Blank characters

Blanks are the characters with the Unicode property White_Space. `trim` takes them off both ends
of a text.
-/

namespace ShaderLens

/-- The code points with the property White_Space. -/
def blankRanges : Ranges where
  bounds := [
    (0x9, 0xD), (0x20, 0x20), (0x85, 0x85), (0xA0, 0xA0), (0x1680, 0x1680), (0x2000, 0x200A),
    (0x2028, 0x2029), (0x202F, 0x202F), (0x205F, 0x205F), (0x3000, 0x3000) ]
  sorted := by decide

def isBlank (c : Char) : Bool :=
  blankRanges.has c.toNat

namespace Text

/-- The text without its leading blanks. -/
def trimStart (t : Text) : Text :=
  t.dropWhile isBlank

/-- The text without its trailing blanks. -/
def trimEnd (t : Text) : Text :=
  (t.reverse.dropWhile isBlank).reverse

/-- The text without the blanks at both ends. -/
def trim (t : Text) : Text :=
  trimEnd (trimStart t)

end Text

end ShaderLens
