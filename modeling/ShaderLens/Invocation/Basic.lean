import ShaderLens.Markup.Render
import ShaderLens.Source.Basic

/-!
# Invocations

What a command line asks for: a command and the settings to run it with.
-/

namespace ShaderLens

/-- How the viewer shows and moves. All counts are 64-bit. -/
structure ViewSettings where
  /-- Columns from one tab stop to the next. -/
  tabWidth : UInt64 := 2
  /-- Lines that a scroll key moves. -/
  scrollStep : UInt64 := 1
  /-- Lines that a page key moves. -/
  pageStep : UInt64 := 10
  deriving DecidableEq, Repr

structure Settings where
  markup : Markup.Settings := {}
  view : ViewSettings := {}
  deriving DecidableEq, Repr

inductive Command
  | html (source : Source)
  | tokens (source : Source)
  | view (vertex fragment : Source)
  | help
  deriving DecidableEq, Repr

/-- The sources that a command reads, in this order. -/
def Command.sources : Command → List Source
  | html source => [source]
  | tokens source => [source]
  | view vertex fragment => [vertex, fragment]
  | help => []

structure Invocation where
  command : Command
  settings : Settings
  deriving DecidableEq, Repr

end ShaderLens
