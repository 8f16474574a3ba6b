import ShaderLens.Proofs.Invocation.Printing

/-!
# What a run reports

A run of a command line that opens no viewer reports what printing comes to (`Printed.ofArguments`):
success by the text on the standard output alone, failure by a message on the standard error output
alone. The usage follows the message iff the command line is wrong in itself
(`Failure.showsUsage_iff`).
-/

namespace ShaderLens

/-- Reads a command line and prints what it asks for, to an output with room for everything. -/
def Printed.ofArguments (around : Surroundings) (arguments : List Text) : Printed :=
  match Invocation.ofArguments arguments with
  | .ok invocation => invocation.print around none
  | .error failure => .refused failure

namespace Failure

/-- The failures of a command line that is wrong in itself, whatever there is to read. -/
inductive OfLine : Failure → Prop
  | missingArgument (what : Missing) : OfLine (.missingArgument what)
  | unknownCommand (name : Text) : OfLine (.unknownCommand name)
  | invalidOption (option : Text) : OfLine (.invalidOption option)
  | unexpectedArgument (word : Text) : OfLine (.unexpectedArgument word)

theorem showsUsage_iff (failure : Failure) : failure.showsUsage ↔ failure.OfLine := by
  cases failure with
  | missingArgument what => exact iff_of_true rfl (.missingArgument what)
  | unknownCommand name => exact iff_of_true rfl (.unknownCommand name)
  | invalidOption option => exact iff_of_true rfl (.invalidOption option)
  | unexpectedArgument word => exact iff_of_true rfl (.unexpectedArgument word)
  | load cause => exact iff_of_false Bool.false_ne_true nofun
  | outputFull => exact iff_of_false Bool.false_ne_true nofun

/-- The line that reports a failure. -/
def report (failure : Failure) : Text :=
  "shadepad: ".toList ++ failure.message ++ ['\n']

end Failure

/-- The usage as it follows a report. -/
def usageNote : Text :=
  '\n' :: usage ++ ['\n']

namespace Outcome

/-- A report is followed by the usage or by nothing. -/
theorem stderr_failure (cause : Failure) :
    ((failure cause).stderr = cause.report ++ usageNote ↔ cause.OfLine) ∧
      ((failure cause).stderr = cause.report ↔ ¬ cause.OfLine) := by
  have stderr : (failure cause).stderr =
      cause.report ++ if cause.showsUsage then usageNote else [] := rfl
  have some_note : usageNote ≠ [] := List.cons_ne_nil _ _
  rw [stderr, List.append_cancel_left_eq, List.append_right_eq_self, ← Failure.showsUsage_iff]
  by_cases shows : cause.showsUsage
  · simp [shows, some_note]
  · simp [shows, some_note.symm]

/-- Without a viewer to open, all that a run leaves behind is the text that its command prints. -/
theorem run_eq {around : Surroundings} {arguments : List Text}
    (prints : ∀ vertex fragment settings,
      Invocation.ofArguments arguments ≠ .ok ⟨.view vertex fragment, settings⟩) :
    run around arguments =
      ofResult ((Invocation.ofArguments arguments).bind (·.output around)) := by
  unfold run
  cases read : Invocation.ofArguments arguments with
  | error cause => rfl
  | ok invocation =>
      obtain ⟨command, settings⟩ := invocation
      cases command with
      | view vertex fragment => exact absurd read (prints vertex fragment settings)
      | html source => rfl
      | tokens source => rfl
      | help => rfl

end Outcome

/-- Reading and printing fail with the first failure of the two. -/
theorem Printed.ofArguments_eq (around : Surroundings) (arguments : List Text) :
    Printed.ofArguments around arguments =
      match (Invocation.ofArguments arguments).bind (·.output around) with
      | .ok text => ⟨text.utf8, none⟩
      | .error cause => .refused cause := by
  unfold Printed.ofArguments
  cases Invocation.ofArguments arguments with
  | error cause => rfl
  | ok invocation =>
      change invocation.print around none = match invocation.output around with
        | .ok text => ⟨text.utf8, none⟩
        | .error cause => .refused cause
      unfold Invocation.print
      cases invocation.output around with
      | error cause => rfl
      | ok text => rfl

/-- **A run reports what printing comes to.** If a command line can be read and its command prints,
the run ends with exit code 0, the printed bytes are those of the standard output, and the standard
error output is empty. If the one or the other fails, it ends with exit code 1 and an empty standard
output, and the standard error output is the report of this failure, followed by the usage iff the
command line itself was wrong. -/
theorem run_reports_printing (around : Surroundings) (arguments : List Text)
    (prints : ∀ vertex fragment settings,
      Invocation.ofArguments arguments ≠ .ok ⟨.view vertex fragment, settings⟩) :
    let outcome := Outcome.run around arguments
    let printed := Printed.ofArguments around arguments
    match printed.failure with
    | none => outcome.exitCode = 0 ∧ outcome.stdout.utf8 = printed.bytes ∧ outcome.stderr = []
    | some cause => outcome.exitCode = 1 ∧ outcome.stdout = [] ∧ printed.bytes = .empty ∧
        (outcome.stderr = cause.report ++ usageNote ↔ cause.OfLine) ∧
        (outcome.stderr = cause.report ↔ ¬ cause.OfLine) := by
  intro outcome printed
  have outcome_eq : outcome = _ := Outcome.run_eq prints
  have printed_eq : printed = _ := Printed.ofArguments_eq around arguments
  rw [outcome_eq, printed_eq]
  cases (Invocation.ofArguments arguments).bind (·.output around) with
  | ok text => exact ⟨rfl, rfl, rfl⟩
  | error cause => exact ⟨rfl, rfl, rfl, Outcome.stderr_failure cause⟩

/-- To list bytes that are no text fails without the usage, and to list nothing fails with it. -/
theorem run_reports_two_failures :
    let around : Surroundings := ⟨fun _ => none, .ok ⟨#[0xFF]⟩, .ok []⟩
    let garbled := ["tokens".toList, "-".toList]
    let short := ["tokens".toList]
    let first := Outcome.run around garbled
    let second := Outcome.run around short
    (∀ vertex fragment settings,
      Invocation.ofArguments garbled ≠ .ok ⟨.view vertex fragment, settings⟩ ∧
      Invocation.ofArguments short ≠ .ok ⟨.view vertex fragment, settings⟩) ∧
    (first.exitCode = 1 ∧ first.stdout = [] ∧
      first.stderr = "shadepad: Invalid UTF-8 in stdin\n".toList) ∧
    second.exitCode = 1 ∧ second.stdout = [] ∧
      second.stderr = "shadepad: Missing argument: shader source\n".toList ++ usageNote := by
  intro around garbled short first second
  have prints (vertex fragment : Source) (settings : Settings) :
      Invocation.ofArguments garbled ≠ .ok ⟨.view vertex fragment, settings⟩ ∧
      Invocation.ofArguments short ≠ .ok ⟨.view vertex fragment, settings⟩ := by
    have read : Invocation.ofArguments garbled = .ok ⟨.tokens .stdin, {}⟩ := by rfl
    have refused : Invocation.ofArguments short = .error (.missingArgument .shaderSource) := by rfl
    rw [read, refused]
    exact ⟨nofun, nofun⟩
  have undecoded : (Printed.ofArguments around garbled).failure =
      some (.load (.invalidEncoding "stdin".toList)) := by decide +kernel
  have missing : (Printed.ofArguments around short).failure =
      some (.missingArgument .shaderSource) := by decide +kernel
  have firstReport := run_reports_printing around garbled fun v f s => (prints v f s).1
  have secondReport := run_reports_printing around short fun v f s => (prints v f s).2
  simp only [undecoded] at firstReport
  simp only [missing] at secondReport
  obtain ⟨exit, stdout, -, -, plain⟩ := firstReport
  obtain ⟨exit', stdout', -, noted, -⟩ := secondReport
  exact ⟨prints, ⟨exit, stdout, plain.2 nofun⟩, exit', stdout',
    noted.2 (.missingArgument .shaderSource)⟩

end ShaderLens
