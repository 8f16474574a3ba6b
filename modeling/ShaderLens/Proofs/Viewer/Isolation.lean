import Mathlib.Data.List.Forall2
import ShaderLens.Proofs.Viewer.Grid
import ShaderLens.Viewer.Session

/-!
# Panes that know nothing of each other

Two viewers that agree on one pane, on the focus and on the settings go on to agree whatever they
perform (`Viewer.Agree.perform`), so two sessions of theirs stay in step through all signals
(`Session.Agree.states`). What they draw for that pane and below the panes is the same
(`Screen.samePane_draw`): of the shader in the other pane nothing is to be seen there.
-/

namespace ShaderLens

variable {Hue : Type}

/-! ## Viewers -/

namespace Viewer

/-- A viewer that shows a shader at the given side, beside another one. -/
def beside (side : Side) (own other : Shader) (settings : ViewSettings) : Viewer :=
  match side with
  | .vertex => start own other settings
  | .fragment => start other own settings

/-- Two viewers agree on all but the other pane. -/
structure Agree (side : Side) (a b : Viewer) : Prop where
  mode : a.mode = b.mode
  focused : a.focused = b.focused
  settings : a.settings = b.settings
  pane : a.pane side = b.pane side

theorem agree_beside (side : Side) (own other other' : Shader) (settings : ViewSettings) :
    Agree side (beside side own other settings) (beside side own other' settings) := by
  cases side with
  | vertex => exact ⟨rfl, rfl, rfl, rfl⟩
  | fragment => exact ⟨rfl, rfl, rfl, rfl⟩

/-- The other pane may be moved in another way, but that changes only this pane. -/
theorem Agree.perform {side : Side} {a b : Viewer} (agree : Agree side a b) (action : Action) :
    Agree side (a.perform action) (b.perform action) := by
  obtain ⟨mode, focused, settings, pane⟩ := agree
  constructor
  · rw [mode_perform, mode_perform, mode]
  · rw [focused_perform, focused_perform, focused]
  · rw [settings_perform, settings_perform, settings]
  · rw [pane_perform, pane_perform, focused, settings, pane]

end Viewer

/-! ## Sessions -/

namespace Session

/-- Two sessions in terminals of one size agree if their viewers do. -/
structure Agree (side : Side) (a b : Session) : Prop where
  viewer : a.viewer.Agree side b.viewer
  size : a.size = b.size

variable {side : Side} {a b : Session}

theorem Agree.isOver_eq (agree : Agree side a b) : a.isOver = b.isOver := by
  rw [isOver, isOver, agree.viewer.mode]

/-- Either both sessions draw again, and agree once more, or neither does. -/
theorem Agree.receive? (agree : Agree side a b) (signal : Signal) :
    Option.Rel (Agree side) (a.receive? signal) (b.receive? signal) := by
  obtain ⟨viewer, size⟩ := agree
  cases signal with
  | key motion modifier key =>
      cases motion with
      | pressed => exact .some ⟨viewer.perform key.action, size⟩
      | repeated | released => exact .none
  | resize new => exact .some ⟨viewer, rfl⟩
  | other => exact .none

theorem Agree.states (agree : Agree side a b) (signals : List Signal) :
    List.Forall₂ (Agree side) (a.states signals) (b.states signals) := by
  induction signals generalizing a b with
  | nil => exact .nil
  | cons signal rest ih =>
      rw [Session.states, Session.states, agree.isOver_eq]
      split
      · exact .nil
      · -- The other session draws at the same signals, so no screen is without its counterpart.
        have received := agree.receive? signal
        revert received
        cases a.receive? signal <;> cases b.receive? signal <;> rintro (agree' | _)
        · exact ih agree
        · exact .cons agree' (ih agree')

theorem Agree.drawn (agree : Agree side a b) (signals : List Signal) :
    List.Forall₂ (Agree side) (a.drawn signals) (b.drawn signals) :=
  .cons agree (agree.states signals)

end Session

/-! ## Screens -/

namespace Screen

/-- Two screens of the given size show the same in the columns of a pane and below the panes. -/
def SamePane (side : Side) (size : Size) (a b : List (Row Hue)) : Prop :=
  ∃ rows rows' hints, Composed size rows hints a ∧ Composed size rows' hints b ∧
    rows side = rows' side

theorem paneRows_congr (palette : Palette Hue) {side : Side} {a b : Viewer} (agree : a.Agree side b)
    (size : Size) : paneRows palette a side size = paneRows palette b side size := by
  rw [paneRows, paneRows, agree.focused, agree.settings, agree.pane]

theorem samePane_draw (palette : Palette Hue) {side : Side} {a b : Viewer} (agree : a.Agree side b)
    (size : Size) : SamePane side size (draw palette a size) (draw palette b size) :=
  ⟨_, _, _, composed_draw palette a size, composed_draw palette b size,
    paneRows_congr palette agree _⟩

end Screen

/-- **Nothing of a shader gets into the pane of the other one.** Two sessions that open one shader
at the same side, with the same settings, palette, size and signals, draw as many screens whatever
shaders stand at the other side. Every two screens that correspond are drawn in terminals of one
size, and in the columns that the pane has at that size they show the same characters and styles,
as they do in the row of hints. -/
theorem panes_show_own_shader_only (side : Side) (own other other' : Shader)
    (settings : ViewSettings) (palette : Palette Hue) (size : Size) (signals : List Signal) :
    List.Forall₂
      (fun a b => a.size = b.size ∧
        Screen.SamePane side a.size (a.screen palette) (b.screen palette))
      (Session.drawn ⟨Viewer.beside side own other settings, size⟩ signals)
      (Session.drawn ⟨Viewer.beside side own other' settings, size⟩ signals) := by
  have start : Session.Agree side ⟨Viewer.beside side own other settings, size⟩
      ⟨Viewer.beside side own other' settings, size⟩ :=
    ⟨Viewer.agree_beside side own other other' settings, rfl⟩
  apply List.Forall₂.imp _ (start.drawn signals)
  rintro ⟨a, _⟩ ⟨b, _⟩ ⟨agree, rfl⟩
  exact ⟨rfl, Screen.samePane_draw palette agree _⟩

end ShaderLens
