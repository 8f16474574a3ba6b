import ShaderLens.Invocation.Run
import ShaderLens.Viewer.Screen

/-!
# Viewing sessions

A session draws the screen once at the start and again after each key press and each change of
size. It ends with the screen drawn after the key that quits.
-/

namespace ShaderLens

inductive Modifier
  | control
  | alt
  deriving DecidableEq, Repr

/-- What happens to a key. -/
inductive KeyMotion
  | pressed
  /-- A key that is held down is told of again and again. -/
  | repeated
  | released
  deriving DecidableEq, Repr

/-- What a terminal tells the viewer. -/
inductive Signal
  | key (motion : KeyMotion) (modifier : Option Modifier) (key : Key)
  | resize (size : Size)
  /-- Mouse, focus and pasted text. -/
  | other
  deriving DecidableEq, Repr

/-- The pressing of a key. -/
abbrev Signal.press (modifier : Option Modifier) (key : Key) : Signal :=
  .key .pressed modifier key

/-- A viewer in a terminal of some size. -/
structure Session where
  viewer : Viewer
  size : Size
  deriving DecidableEq, Repr

namespace Session

/-- What is on the screen. -/
def screen {Hue : Type} (palette : Palette Hue) (session : Session) : List (Row Hue) :=
  Screen.draw palette session.viewer session.size

def isOver (session : Session) : Bool :=
  session.viewer.mode = .quit

/-- The session after a signal that has the screen drawn again. Of a key only the pressing counts,
and modifiers make no difference. -/
def receive? (session : Session) : Signal → Option Session
  | .key motion _ key =>
      if motion = .pressed then
        some { session with viewer := session.viewer.perform key.action }
      else none
  | .resize size => some { session with size := size }
  | .other => none

/-- The states that signals lead a session through, one for each drawing of the screen. -/
def states (session : Session) : List Signal → List Session
  | [] => []
  | signal :: rest =>
      if session.isOver then []
      else
        match session.receive? signal with
        | some next => next :: next.states rest
        | none => session.states rest

/-- The session each time that it draws the screen. -/
def drawn (session : Session) (signals : List Signal) : List Session :=
  session :: session.states signals

/-- All screens that a session draws. -/
def screens {Hue : Type} (palette : Palette Hue) (session : Session) (signals : List Signal) :
    List (List (Row Hue)) :=
  (session.drawn signals).map (screen palette)

/-- The viewer that a command line opens, if it is one for a view. -/
def open? (around : Surroundings) (arguments : List Text) : Except Failure (Option Viewer) := do
  let invocation ← Invocation.ofArguments arguments
  match invocation.command with
  | .view vertex fragment =>
      let shaders ← Invocation.loadPair around vertex fragment
      return some (Viewer.start shaders.1 shaders.2 invocation.settings.view)
  | _ => return none

end Session

/-- What a session shows, and the exit code of the program. -/
structure Showing where
  screens : List (List Row)
  exitCode : UInt32
  deriving DecidableEq, Repr

/-- Runs a command line in a terminal of the given size. A command line that opens no viewer leaves
the screen as it is and ends with the exit code of its outcome. -/
def Showing.run (around : Surroundings) (arguments : List Text) (size : Size)
    (signals : List Signal) : Showing :=
  match Session.open? around arguments with
  | .ok (some viewer) => ⟨Session.screens .midnight ⟨viewer, size⟩ signals, 0⟩
  | _ => ⟨[], (Outcome.run around arguments).exitCode⟩

end ShaderLens
