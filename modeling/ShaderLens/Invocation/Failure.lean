import ShaderLens.Source.Load

/-!
# Failures

Why a command line cannot be carried out.
-/

namespace ShaderLens

/-- The arguments that a command line can lack. -/
inductive Missing
  | tabWidth
  | classPrefix
  | shaderSource
  | vertexSource
  | fragmentSource
  deriving DecidableEq, Repr

def Missing.description : Missing → Text
  | tabWidth => "tab width".toList
  | classPrefix => "class prefix".toList
  | shaderSource => "shader source".toList
  | vertexSource => "vertex shader source".toList
  | fragmentSource => "fragment shader source".toList

inductive Failure
  | missingArgument (what : Missing)
  | unknownCommand (name : Text)
  | invalidOption (option : Text)
  | unexpectedArgument (word : Text)
  | load (error : LoadError)
  | outputFull
  deriving DecidableEq, Repr

namespace Failure

def message : Failure → Text
  | missingArgument what => "Missing argument: ".toList ++ what.description
  | unknownCommand name => "Unknown command: ".toList ++ name
  | invalidOption option => "Invalid option: ".toList ++ option
  | unexpectedArgument word => "Unexpected argument: ".toList ++ word
  | load error => error.message
  | outputFull => "I/O error: failed to write whole buffer".toList

/-- The failures of a command line that is wrong in itself, for which the usage is shown. -/
def showsUsage : Failure → Bool
  | missingArgument _ => true
  | unknownCommand _ => true
  | invalidOption _ => true
  | unexpectedArgument _ => true
  | load _ => false
  | outputFull => false

end Failure

end ShaderLens
