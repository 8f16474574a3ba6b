import Mathlib.Data.List.Infix
import ShaderLens.Proofs.Viewer.Motion
import ShaderLens.Viewer.Session

/-!
# What a session draws

A session tests whether it is over before it takes a signal, passes over some signals and draws
again for the others. What comes out of this is settled by the signals alone: there is a screen for
each front (`List.inits`) of the drawn signals up to the one that quits, and that screen shows the
viewer moved by all keys of the front, at the last size the front tells.
-/

namespace ShaderLens

variable {Hue : Type}

namespace Signal

/-- Whether the screen is drawn again after a signal. -/
def draws : Signal → Bool
  | .key .pressed _ _ | .resize _ => true
  | .key .repeated _ _ | .key .released _ _ | .other => false

/-- What a signal asks the viewer to do. -/
def action? : Signal → Option Action
  | .key .pressed _ pressed => some pressed.action
  | .key .repeated _ _ | .key .released _ _ | .resize _ | .other => none

/-- The size that a signal tells. -/
def size? : Signal → Option Size
  | .resize size => some size
  | .key _ _ _ | .other => none

def quits (signal : Signal) : Bool :=
  signal.action? = some .quit

/-- The signals up to the first that quits, with that one; all of them if none quits. -/
def throughQuit (signals : List Signal) : List Signal :=
  signals.takeWhile (!·.quits) ++ (signals.dropWhile (!·.quits)).take 1

theorem throughQuit_cons (signal : Signal) (rest : List Signal) :
    throughQuit (signal :: rest) = signal :: if signal.quits then [] else throughQuit rest := by
  unfold throughQuit
  by_cases quits : signal.quits
  · simp [quits]
  · simp [quits]

end Signal

namespace Session

/-- The session after some signals, if it is not over on the way: the viewer has performed what the
keys ask for, and the size is the last that was told. -/
def after (session : Session) (seen : List Signal) : Session where
  viewer := session.viewer.run (seen.filterMap Signal.action?)
  size := (seen.filterMap Signal.size?).getLastD session.size

variable (session : Session) (signal : Signal) (signals : List Signal)

/-! ## One signal -/

@[simp] theorem after_nil : session.after [] = session :=
  rfl

theorem after_cons :
    session.after (signal :: signals) = (session.after [signal]).after signals := by
  cases signal with
  | key motion modifier key => cases motion <;> rfl
  | resize size =>
      simp only [after, Signal.action?, Signal.size?, List.filterMap_cons, List.filterMap_nil,
        List.getLastD_cons, List.getLastD_nil]
      rfl
  | other => rfl

theorem receive?_eq : session.receive? signal =
    if signal.draws then some (session.after [signal]) else none := by
  cases signal with
  | key motion modifier key => cases motion <;> rfl
  | resize size => rfl
  | other => rfl

theorem isOver_after_singleton :
    (session.after [signal]).isOver ↔ session.isOver ∨ signal.quits := by
  unfold isOver Signal.quits after
  rw [decide_eq_true_iff, decide_eq_true_iff, decide_eq_true_iff, Viewer.mode_run_eq_quit_iff]
  cases signal with
  | key motion modifier key => cases motion <;> simp [Signal.action?, eq_comm]
  | resize size => simp [Signal.action?]
  | other => simp [Signal.action?]

variable {session} {signal}

theorem states_of_isOver (ended : session.isOver) : session.states signals = [] := by
  cases signals with
  | nil => rfl
  | cons signal rest => simp [states, ended]

theorem states_cons_of_draws (ongoing : ¬ session.isOver) (draws : signal.draws) :
    session.states (signal :: signals) =
      session.after [signal] :: (session.after [signal]).states signals := by
  simp [states, ongoing, receive?_eq, draws]

theorem states_cons_of_not_draws (ongoing : ¬ session.isOver) (ignored : ¬ signal.draws) :
    session.states (signal :: signals) = session.states signals := by
  simp [states, ongoing, receive?_eq, ignored]

/-! ## All signals -/

/-- The induction is on the signals, for every session that they may find. What is left after a
drawn signal is a session again, which is over iff that signal quits. -/
theorem cons_states_eq (ongoing : ¬ session.isOver) :
    session :: session.states signals =
      (Signal.throughQuit (signals.filter Signal.draws)).inits.map session.after := by
  induction signals generalizing session with
  | nil => rfl
  | cons signal rest ih =>
      by_cases draws : signal.draws
      · rw [states_cons_of_draws rest ongoing draws, List.filter_cons_of_pos draws,
          Signal.throughQuit_cons, List.inits_cons, List.map_cons, List.map_map, after_nil]
        congr 1
        by_cases quits : signal.quits
        · have ended : (session.after [signal]).isOver := by
            rw [isOver_after_singleton]
            exact .inr quits
          rw [states_of_isOver rest ended, if_pos quits]
          rfl
        · have ongoing' : ¬ (session.after [signal]).isOver := by
            rw [isOver_after_singleton]
            rintro (ended | quits')
            · exact ongoing ended
            · exact quits quits'
          rw [ih ongoing', if_neg quits]
          apply List.map_congr_left
          intro seen _
          exact (after_cons session signal seen).symm
      · rw [states_cons_of_not_draws rest ongoing draws, List.filter_cons_of_neg draws]
        exact ih ongoing

variable (session)

/-- A session that is over from the start draws its first screen and no other. -/
theorem screens_eq (palette : Palette Hue) :
    session.screens palette signals =
      (if session.isOver then []
        else Signal.throughQuit (signals.filter Signal.draws)).inits.map fun seen =>
          (session.after seen).screen palette := by
  unfold screens drawn
  by_cases ended : session.isOver
  · rw [states_of_isOver signals ended, if_pos ended]
    rfl
  · rw [cons_states_eq signals ended, if_neg ended, List.map_map]
    rfl

end Session

/-! ## Loading -/

/-- A pair loads iff both of its shaders do. If both fail, the vertex shader is the one reported. -/
theorem Invocation.loadPair_eq (around : Surroundings) (vertex fragment : Source) :
    loadPair around vertex fragment =
      match Shader.load around vertex, Shader.load (around.afterReading vertex) fragment with
      | .error cause, _ => .error (.load cause)
      | .ok _, .error cause => .error (.load cause)
      | .ok first, .ok second => .ok (first, second) := by
  unfold loadPair
  cases Shader.load around vertex with
  | error cause => rfl
  | ok first =>
      cases Shader.load (around.afterReading vertex) fragment with
      | error cause => rfl
      | ok second => rfl

namespace Showing

variable {around : Surroundings} {arguments : List Text} {vertex fragment : Source}
  {settings : Settings} (size : Size) (signals : List Signal)

theorem run_of_loaded {first second : Shader}
    (view : Invocation.ofArguments arguments = .ok ⟨.view vertex fragment, settings⟩)
    (loaded : Invocation.loadPair around vertex fragment = .ok (first, second)) :
    run around arguments size signals =
      ⟨Session.screens .midnight ⟨Viewer.start first second settings.view, size⟩ signals, 0⟩ := by
  have opened : Session.open? around arguments =
      .ok (some (Viewer.start first second settings.view)) := by
    simp [Session.open?, view, loaded, bind, Except.bind, pure, Except.pure]
  simp [run, opened]

theorem run_of_not_loaded {cause : Failure}
    (view : Invocation.ofArguments arguments = .ok ⟨.view vertex fragment, settings⟩)
    (failed : Invocation.loadPair around vertex fragment = .error cause) :
    run around arguments size signals = ⟨[], 1⟩ := by
  have opened : Session.open? around arguments = .error cause := by
    simp [Session.open?, view, failed, bind, Except.bind]
  have outcome : Outcome.run around arguments = Outcome.failure cause := by
    simp [Outcome.run, Outcome.ofResult, view, failed, bind, Except.bind]
  simp [run, opened, outcome, Outcome.failure]

/-- A view has something to show iff both of its shaders load. -/
theorem run_view
    (view : Invocation.ofArguments arguments = .ok ⟨.view vertex fragment, settings⟩) :
    run around arguments size signals =
      match Shader.load around vertex, Shader.load (around.afterReading vertex) fragment with
      | .ok first, .ok second =>
          ⟨Session.screens .midnight ⟨Viewer.start first second settings.view, size⟩ signals, 0⟩
      | _, _ => ⟨[], 1⟩ := by
  have pair := Invocation.loadPair_eq around vertex fragment
  cases first : Shader.load around vertex with
  | error cause =>
      rw [first] at pair
      exact run_of_not_loaded size signals view pair
  | ok vertexShader =>
      cases second : Shader.load (around.afterReading vertex) fragment with
      | error cause =>
          rw [first, second] at pair
          exact run_of_not_loaded size signals view pair
      | ok fragmentShader =>
          rw [first, second] at pair
          exact run_of_loaded size signals view pair

end Showing

/-- **A session draws one screen for each signal that matters.** The first screen comes before all
signals, then there is one more for each press of a key and each change of size, up to and with the
first key that quits. A viewer that has quit already shows its first screen only. Each screen shows
the viewer after all actions that the keys so far asked for, at the last size that was told. A
signal of another kind, such as the release of a key, changes no screen, put in or left out at any
place. A view draws these screens if both of its shaders load; if one of them does not, it draws
none and ends with exit code 1. -/
theorem session_draws_each_signal (palette : Palette Hue) (viewer : Viewer) (size : Size)
    (signals : List Signal) :
    let drawn :=
      if viewer.mode = .quit then [] else Signal.throughQuit (signals.filter Signal.draws)
    Session.screens palette ⟨viewer, size⟩ signals =
      drawn.inits.map (fun seen =>
        Screen.draw palette (viewer.run (seen.filterMap Signal.action?))
          ((seen.filterMap Signal.size?).getLastD size)) ∧
    (∀ front ignored back, ¬ ignored.draws → signals = front ++ back →
      Session.screens palette ⟨viewer, size⟩ (front ++ ignored :: back) =
        Session.screens palette ⟨viewer, size⟩ signals) ∧
    ∀ around arguments vertex fragment settings,
      Invocation.ofArguments arguments = .ok ⟨.view vertex fragment, settings⟩ →
      Showing.run around arguments size signals =
        match Shader.load around vertex, Shader.load (around.afterReading vertex) fragment with
        | .ok first, .ok second =>
            ⟨Session.screens .midnight ⟨Viewer.start first second settings.view, size⟩ signals, 0⟩
        | _, _ => ⟨[], 1⟩ := by
  intro drawn
  refine ⟨?_, ?_, ?_⟩
  · rw [Session.screens_eq]
    simp only [Session.isOver, decide_eq_true_iff]
    rfl
  · rintro front ignored back passed rfl
    rw [Session.screens_eq, Session.screens_eq, List.filter_append, List.filter_append,
      List.filter_cons_of_neg passed]
  · intro around arguments vertex fragment settings view
    exact Showing.run_view size signals view

/-- Two empty shaders are drawn at first, after the key that scrolls, at the new size and after the
key that quits. Without the second shader there is nothing to see. That the key that quits is let go
once before it is pressed makes no difference. -/
theorem session_draws_four_screens_or_none :
    let arguments := ["view".toList, "a.vert".toList, "b.frag".toList]
    let signals : List Signal :=
      [.press none (.char 'j'), .key .released none .escape, .other, .resize ⟨20, 6⟩,
        .press none .escape, .press none .down]
    let folder (paths : List Text) : Surroundings :=
      ⟨fun path => if path ∈ paths then some (.file (Text.utf8 [])) else none, .ok .empty, .ok []⟩
    let viewer := Viewer.start ⟨[], "file:a.vert".toList⟩ ⟨[], "file:b.frag".toList⟩ {}
    let scrolled := viewer.run [.scrollDown]
    Showing.run (folder ["a.vert".toList, "b.frag".toList]) arguments ⟨10, 4⟩ signals =
      ⟨[Screen.draw .midnight viewer ⟨10, 4⟩, Screen.draw .midnight scrolled ⟨10, 4⟩,
        Screen.draw .midnight scrolled ⟨20, 6⟩,
        Screen.draw .midnight (scrolled.perform .quit) ⟨20, 6⟩], 0⟩ ∧
    Showing.run (folder ["a.vert".toList]) arguments ⟨10, 4⟩ signals = ⟨[], 1⟩ ∧
    Session.screens .midnight ⟨viewer, ⟨10, 4⟩⟩ signals =
      Session.screens .midnight ⟨viewer, ⟨10, 4⟩⟩ (signals.eraseIdx 1) := by
  intro arguments signals folder viewer scrolled
  obtain ⟨screens, -, loads⟩ := session_draws_each_signal .midnight viewer ⟨10, 4⟩ signals
  have view : Invocation.ofArguments arguments =
      .ok ⟨.view (.file "a.vert".toList) (.file "b.frag".toList), {}⟩ := by rfl
  have found {paths : List Text} {path : Text} (member : path ∈ paths) :
      Shader.load (folder paths) (.file path) = .ok ⟨[], (Source.file path).origin⟩ := by
    have entry : Surroundings.entry? (folder paths) path = some (.file (Text.utf8 [])) :=
      if_pos member
    have decoded : Text.ofUtf8? (Text.utf8 []) = some [] := Text.ofUtf8?_utf8 []
    simp only [Shader.load, entry, Shader.ofBytes, decoded]
  have missing {paths : List Text} {path : Text} (foreign : path ∉ paths) :
      Shader.load (folder paths) (.file path) = .error (.fileNotFound path) := by
    simp [Shader.load, folder, foreign]
  have drawn : (if viewer.mode = .quit then [] else
      Signal.throughQuit (signals.filter Signal.draws)) =
        [.press none (.char 'j'), .resize ⟨20, 6⟩, .press none .escape] := by rfl
  refine ⟨?_, ?_, ?_⟩
  · rw [loads _ arguments _ _ _ view, found (by simp), Surroundings.afterReading, found (by simp)]
    rw [drawn] at screens
    exact congrArg (Showing.mk · 0) screens
  · rw [loads _ arguments _ _ _ view, found (by simp), Surroundings.afterReading,
      missing (by decide)]
  · obtain ⟨-, ignores, -⟩ :=
      session_draws_each_signal .midnight viewer ⟨10, 4⟩ (signals.eraseIdx 1)
    exact ignores [.press none (.char 'j')] (.key .released none .escape) _ (by decide) rfl

end ShaderLens
