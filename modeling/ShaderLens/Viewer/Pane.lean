import ShaderLens.Source.Basic
import ShaderLens.Text.Count
import ShaderLens.Text.Lines

/-!
# Panes

A pane shows one shader from a line on. Its scroll position is the number of that line and never
passes the last one.
-/

namespace ShaderLens

/-- The two panes by the shader that they show. -/
inductive Side
  | vertex
  | fragment
  deriving DecidableEq, Repr

namespace Side

def other : Side → Side
  | vertex => fragment
  | fragment => vertex

def title : Side → Text
  | vertex => "Vertex shader".toList
  | fragment => "Fragment shader".toList

end Side

structure Pane where
  shader : Shader
  scroll : UInt64 := 0
  deriving DecidableEq, Repr

namespace Pane

def lineCount (pane : Pane) : Nat :=
  pane.shader.text.lineCount

/-- The number of the last line, counted from zero. -/
def lastLine (pane : Pane) : UInt64 :=
  UInt64.ofNat (pane.lineCount - 1)

def scrollDown (pane : Pane) (lines : UInt64) : Pane :=
  { pane with scroll := min (Count.add pane.scroll lines) pane.lastLine }

def scrollUp (pane : Pane) (lines : UInt64) : Pane :=
  { pane with scroll := Count.sub pane.scroll lines }

def toTop (pane : Pane) : Pane :=
  { pane with scroll := 0 }

def toBottom (pane : Pane) : Pane :=
  { pane with scroll := pane.lastLine }

end Pane

end ShaderLens
