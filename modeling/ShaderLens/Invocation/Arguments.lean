import ShaderLens.Invocation.Basic
import ShaderLens.Invocation.Failure
import ShaderLens.Text.Count

/-!
# Arguments

A command line is read in two steps. First its arguments are grouped from left to right into
items: options with their values, words, a call for help, or a fault (`Item.ofArguments`). Then
the items take effect in order (`Item.apply`): the first call for help or fault decides, and
without one the words name the command (`Command.ofWords`).
-/

namespace ShaderLens

inductive Item
  | help
  | tabWidth (columns : UInt64)
  | classPrefix (value : Text)
  | noTrailingNewline
  | word (value : Text)
  | fault (failure : Failure)
  deriving DecidableEq, Repr

namespace Item

/-- The item of an argument that has no value of its own. -/
def single (argument : Text) : Item :=
  if argument = "--no-trailing-newline".toList then noTrailingNewline
  else if argument.take 2 = "--".toList then fault (.invalidOption argument)
  else word argument

/-- The tab width that a value gives. -/
def ofTabWidth (value : Text) : Item :=
  match Count.ofText? value with
  | some columns => tabWidth columns
  | none => fault (.invalidOption ("--tab-width ".toList ++ value))

/-- Groups arguments into items. An option that needs a value takes the next argument, whatever it
looks like. -/
def ofArguments : List Text → List Item
  | [] => []
  | argument :: rest =>
      if argument = "-h".toList ∨ argument = "--help".toList then help :: ofArguments rest
      else if argument = "--tab-width".toList then
        match rest with
        | [] => [fault (.missingArgument .tabWidth)]
        | value :: rest => ofTabWidth value :: ofArguments rest
      else if argument = "--class-prefix".toList then
        match rest with
        | [] => [fault (.missingArgument .classPrefix)]
        | value :: rest => classPrefix value :: ofArguments rest
      else single argument :: ofArguments rest

end Item

/-- What the items of a command line come to, before a command is known. -/
inductive Reading
  | help (settings : Settings)
  | words (settings : Settings) (words : List Text)
  deriving DecidableEq, Repr

/-- Puts a word before the words read. -/
def Reading.withWord (word : Text) : Reading → Reading
  | help settings => help settings
  | words settings rest => words settings (word :: rest)

/-- Lets items take effect one after the other, beginning with the given settings. -/
def Item.apply (settings : Settings) : List Item → Except Failure Reading
  | [] => .ok (.words settings [])
  | .help :: _ => .ok (.help settings)
  | .tabWidth columns :: rest =>
      apply { settings with view := { settings.view with tabWidth := columns } } rest
  | .classPrefix value :: rest =>
      apply { settings with markup := { settings.markup with classPrefix := value } } rest
  | .noTrailingNewline :: rest =>
      apply { settings with markup := { settings.markup with trailingNewline := false } } rest
  | .word value :: rest => (apply settings rest).map (·.withWord value)
  | .fault failure :: _ => .error failure

namespace Command

/-- The source that a command needs. -/
def requireSource (what : Missing) (word : Option Text) : Except Failure Source :=
  match word.bind Source.ofWord? with
  | some source => .ok source
  | none => .error (.missingArgument what)

/-- Refuses more words than a command takes. -/
def allow (limit : Nat) (words : List Text) : Except Failure Unit :=
  match words[limit]? with
  | some extra => .error (.unexpectedArgument extra)
  | none => .ok ()

/-- The command that a name and the words after it call for. -/
def ofName (name : Text) (words : List Text) : Except Failure Command :=
  if name = "help".toList then do
    allow 0 words
    return help
  else if name = "html".toList then do
    allow 1 words
    return html (← requireSource .shaderSource words[0]?)
  else if name = "tokens".toList then do
    allow 1 words
    return tokens (← requireSource .shaderSource words[0]?)
  else if name = "view".toList then do
    allow 2 words
    let vertex ← requireSource .vertexSource words[0]?
    let fragment ← requireSource .fragmentSource words[1]?
    return view vertex fragment
  else .error (.unknownCommand name)

/-- The command that the words of a command line call for; without words it is help. -/
def ofWords : List Text → Except Failure Command
  | [] => .ok help
  | name :: words => ofName name words

end Command

namespace Invocation

def ofReading : Reading → Except Failure Invocation
  | .help settings => .ok ⟨.help, settings⟩
  | .words settings words => (Command.ofWords words).map fun command => ⟨command, settings⟩

/-- The invocation that a command line, without the program's name, stands for. -/
def ofArguments (arguments : List Text) : Except Failure Invocation :=
  (Item.apply {} (Item.ofArguments arguments)).bind ofReading

end Invocation

end ShaderLens
