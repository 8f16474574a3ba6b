import ShaderLens.Source.Surroundings
import ShaderLens.Text.Utf8

/-!
# Loading shaders

A shader is loaded by reading its source and decoding the bytes as UTF-8. The text is kept as it
is, and an empty one is a shader too; only the clipboard has to hold more than blanks.
-/

namespace ShaderLens

inductive LoadError
  | fileNotFound (path : Text)
  | unreadable (origin reason : Text)
  | invalidEncoding (origin : Text)
  | clipboard (reason : Text)
  | emptySource (origin : Text)
  deriving DecidableEq, Repr

def LoadError.message : LoadError → Text
  | fileNotFound path => "File not found: ".toList ++ path
  | unreadable origin reason => "Failed to read ".toList ++ origin ++ ": ".toList ++ reason
  | invalidEncoding origin => "Invalid UTF-8 in ".toList ++ origin
  | clipboard reason => "Clipboard error: ".toList ++ reason
  | emptySource origin => "Nothing to load from ".toList ++ origin

namespace Shader

/-- The shader whose text has the given bytes. -/
def ofBytes (origin : Text) (bytes : ByteArray) : Except LoadError Shader :=
  match Text.ofUtf8? bytes with
  | some text => .ok ⟨text, origin⟩
  | none => .error (.invalidEncoding origin)

/-- The shader with the text of the clipboard. -/
def ofClipboard (text : Text) : Except LoadError Shader :=
  let origin := Source.clipboard.origin
  if text.trim = [] then .error (.emptySource origin) else .ok ⟨text, origin⟩

def load (around : Surroundings) (source : Source) : Except LoadError Shader :=
  match source with
  | .file path =>
      match around.entry? path with
      | none => .error (.fileNotFound path)
      | some (.unreadable reason) => .error (.unreadable source.origin reason)
      | some (.file bytes) => ofBytes source.origin bytes
  | .clipboard =>
      match around.clipboard with
      | .error reason => .error (.clipboard reason)
      | .ok text => ofClipboard text
  | .stdin =>
      match around.stdin with
      | .error reason => .error (.unreadable source.origin reason)
      | .ok bytes => ofBytes source.origin bytes

end Shader

end ShaderLens
