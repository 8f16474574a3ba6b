/-!
# Styles

How a stretch of text looks on the screen. What a colour is depends on the terminal and is left
open, since colours are only handed on and compared. `Color` is what the built-in palette is made of.
-/

namespace ShaderLens

/-- A colour by its parts of red, green and blue. -/
structure Color where
  red : UInt8
  green : UInt8
  blue : UInt8
  deriving DecidableEq, Repr

structure Style (Hue : Type := Color) where
  foreground : Hue
  background : Hue
  bold : Bool := false
  italic : Bool := false
  underlined : Bool := false
  deriving DecidableEq, Repr

end ShaderLens
