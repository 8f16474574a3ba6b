import ShaderLens.Source.Basic

/-!
# Surroundings

What a program run can read: the files that paths lead to, standard input and the clipboard.
-/

namespace ShaderLens

/-- What stands at the end of a path. -/
inductive Entry
  | file (bytes : ByteArray)
  | unreadable (reason : Text)

/-- A folder exists, but has no bytes to read. -/
def Entry.folder : Entry :=
  .unreadable "Is a directory (os error 21)".toList

structure Surroundings where
  /-- What a path leads to, if it leads anywhere. -/
  entry? : Text → Option Entry
  /-- What standard input holds, or why it cannot be read. -/
  stdin : Except Text ByteArray
  /-- The text on the clipboard, or why there is none to be had. -/
  clipboard : Except Text Text

namespace Surroundings

/-- The surroundings after a source has been read: standard input can be read only once. -/
def afterReading (around : Surroundings) : Source → Surroundings
  | .stdin => { around with stdin := .ok .empty }
  | .file _ => around
  | .clipboard => around

end Surroundings

end ShaderLens
