import ShaderLens.Invocation.Arguments
import ShaderLens.Invocation.Usage
import ShaderLens.Token.Listing

/-!
# Running commands

`Invocation.output` is all that a command has to print, and `Invocation.print` is what becomes of it
where the output takes only so many bytes. Only `view` prints nothing: it opens the viewer, and
where there is no viewer it counts as unknown.
-/

namespace ShaderLens

/-- What came of printing: the bytes that reached the output, and why there are no more. -/
structure Printed where
  bytes : ByteArray
  failure : Option Failure

/-- Prints a text to an output with room for a number of bytes, or for any number. -/
def Printed.ofText (room : Option Nat) (text : Text) : Printed :=
  let bytes := text.utf8
  match room with
  | none => ⟨bytes, none⟩
  | some most =>
      if bytes.size ≤ most then ⟨bytes, none⟩ else ⟨bytes.extract 0 most, some .outputFull⟩

namespace Invocation

/-- The text that a command prints. -/
def output (invocation : Invocation) (around : Surroundings) : Except Failure Text :=
  match invocation.command with
  | .help => .ok usage
  | .html source => do
      let shader ← (Shader.load around source).mapError .load
      return Markup.highlight invocation.settings.markup shader.text
  | .tokens source => do
      let shader ← (Shader.load around source).mapError .load
      return Listing.render shader.text.tokens
  | .view _ _ => .error (.unknownCommand "view".toList)

/-- Runs a command that prints, to an output with room for a number of bytes. -/
def print (invocation : Invocation) (around : Surroundings) (room : Option Nat) : Printed :=
  match invocation.output around with
  | .ok text => Printed.ofText room text
  | .error failure => ⟨.empty, some failure⟩

/-- The two shaders of a view, the vertex shader read first. -/
def loadPair (around : Surroundings) (vertex fragment : Source) :
    Except Failure (Shader × Shader) := do
  let first ← (Shader.load around vertex).mapError .load
  let second ← (Shader.load (around.afterReading vertex) fragment).mapError .load
  return (first, second)

end Invocation

/-- What a run of the program leaves behind. -/
structure Outcome where
  exitCode : UInt32
  stdout : Text
  stderr : Text
  deriving DecidableEq, Repr

namespace Outcome

def success (stdout : Text) : Outcome :=
  ⟨0, stdout, []⟩

/-- A failure is reported with the usage if the command line itself was wrong. -/
def failure (failure : Failure) : Outcome where
  exitCode := 1
  stdout := []
  stderr :=
    "shadepad: ".toList ++ failure.message ++ ['\n'] ++
      if failure.showsUsage then '\n' :: usage ++ ['\n'] else []

/-- The outcome of a run that prints the given text or fails. -/
def ofResult : Except Failure Text → Outcome
  | .ok text => success text
  | .error cause => failure cause

/-- Runs a command line. A view whose shaders load leaves nothing on the outputs but the screen,
which is drawn elsewhere. -/
def run (around : Surroundings) (arguments : List Text) : Outcome :=
  ofResult do
    let invocation ← Invocation.ofArguments arguments
    match invocation.command with
    | .view vertex fragment =>
        let _ ← Invocation.loadPair around vertex fragment
        return []
    | _ => invocation.output around

end Outcome

end ShaderLens
