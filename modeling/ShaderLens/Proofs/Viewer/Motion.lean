import Mathlib.Algebra.Group.Nat.Even
import Mathlib.Data.List.Induction
import ShaderLens.Viewer.Basic

/-!
# The motion of a viewer

A viewer moves two panes, and each of them moves as if it were alone (`Pane.move`). What a pane gets
to hear of a list of actions is settled by the actions themselves (`Action.heard`): those that
scroll, taken while its side has the focus, and which side that is depends on how many switches
there are in front (`Action.focusAfter`).
-/

namespace ShaderLens

/-- A pane by itself. Actions that are for the whole viewer leave it where it is. -/
def Pane.move (settings : ViewSettings) (pane : Pane) : Action → Pane
  | .scrollDown => pane.scrollDown settings.scrollStep
  | .scrollUp => pane.scrollUp settings.scrollStep
  | .pageDown => pane.scrollDown settings.pageStep
  | .pageUp => pane.scrollUp settings.pageStep
  | .top => pane.toTop
  | .bottom => pane.toBottom
  | .switchFocus | .quit | .none => pane

namespace Action

/-- Whether an action is for one pane only. -/
def scrolls : Action → Bool
  | scrollUp | scrollDown | pageUp | pageDown | top | bottom => true
  | switchFocus | quit | none => false

/-- The side with the focus after some actions. It is the vertex side at first and again after every
second switch. -/
def focusAfter (actions : List Action) : Side :=
  if Even (actions.count switchFocus) then .vertex else .fragment

/-- The actions that scroll the pane of a side: those taken while that side has the focus. -/
def heard (side : Side) (actions : List Action) : List Action :=
  (actions.zipIdx.filter fun (action, index) =>
    action.scrolls && focusAfter (actions.take index) = side).map Prod.fst

variable (actions : List Action) (action : Action)

theorem focusAfter_concat :
    focusAfter (actions ++ [action]) =
      if action = switchFocus then (focusAfter actions).other else focusAfter actions := by
  unfold focusAfter
  by_cases switch : action = switchFocus
  · subst switch
    by_cases even : Even (actions.count switchFocus)
    · simp [even, Nat.even_add_one, Side.other]
    · simp [even, Nat.even_add_one, Side.other]
  · simp [switch]

/-- What is heard of an action depends on what is in front of it, never on what comes later. -/
theorem heard_concat (side : Side) :
    heard side (actions ++ [action]) =
      heard side actions ++
        if action.scrolls ∧ focusAfter actions = side then [action] else [] := by
  have earlier : actions.zipIdx.filter (fun (action', index) =>
        action'.scrolls && focusAfter ((actions ++ [action]).take index) = side) =
      actions.zipIdx.filter (fun (action', index) =>
        action'.scrolls && focusAfter (actions.take index) = side) := by
    apply List.filter_congr
    rintro ⟨action', index⟩ member
    have inside : index < actions.length := by
      simpa using (List.mem_zipIdx' member).1
    dsimp only
    rw [List.take_append_of_le_length (Nat.le_of_lt inside)]
  rw [heard, List.zipIdx_append, List.filter_append, earlier, List.map_append, ← heard]
  by_cases own : action.scrolls ∧ focusAfter actions = side
  · simp [own]
  · simp [own]

end Action

namespace Viewer

/-- The viewer after a list of actions. -/
def run (viewer : Viewer) (actions : List Action) : Viewer :=
  actions.foldl perform viewer

variable (viewer : Viewer) (action : Action) (actions : List Action)

/-! ## One action -/

section

variable (change : Pane → Pane)

theorem pane_changeFocused (side : Side) :
    (viewer.changeFocused change).pane side =
      if viewer.focused = side then change (viewer.pane side) else viewer.pane side := by
  unfold changeFocused
  cases focus : viewer.focused <;> cases side <;> simp [pane]

@[simp] theorem mode_changeFocused : (viewer.changeFocused change).mode = viewer.mode := by
  unfold changeFocused
  split <;> rfl

@[simp] theorem focused_changeFocused : (viewer.changeFocused change).focused = viewer.focused := by
  unfold changeFocused
  split <;> rfl

@[simp] theorem settings_changeFocused :
    (viewer.changeFocused change).settings = viewer.settings := by
  unfold changeFocused
  split <;> rfl

end

theorem settings_perform : (viewer.perform action).settings = viewer.settings := by
  cases action <;> simp [perform]

theorem mode_perform :
    (viewer.perform action).mode = if action = .quit then .quit else viewer.mode := by
  cases action <;> simp [perform]

theorem focused_perform :
    (viewer.perform action).focused =
      if action = .switchFocus then viewer.focused.other else viewer.focused := by
  cases action <;> simp [perform]

/-- An action moves the pane with the focus as if it were alone, and the other one not at all. -/
theorem pane_perform (side : Side) :
    (viewer.perform action).pane side =
      if viewer.focused = side then (viewer.pane side).move viewer.settings action
      else viewer.pane side := by
  cases action with
  | scrollDown | scrollUp | pageDown | pageUp | top | bottom => exact pane_changeFocused ..
  | switchFocus | quit | none => cases side <;> simp [perform, pane, Pane.move]

/-! ## A list of actions -/

theorem run_concat : viewer.run (actions ++ [action]) = (viewer.run actions).perform action := by
  simp [run]

theorem settings_run : (viewer.run actions).settings = viewer.settings := by
  induction actions using List.reverseRecOn with
  | nil => rfl
  | append_singleton actions action ih => rw [run_concat, settings_perform, ih]

theorem mode_run_eq_quit_iff :
    (viewer.run actions).mode = .quit ↔ viewer.mode = .quit ∨ .quit ∈ actions := by
  induction actions using List.reverseRecOn with
  | nil => simp [run]
  | append_singleton actions action ih =>
      rw [run_concat, mode_perform, List.mem_append, List.mem_singleton, ← or_assoc, ← ih]
      by_cases quits : action = .quit
      · simp [quits]
      · simp [quits, Ne.symm quits]

section

variable (vertex fragment : Shader) (settings : ViewSettings)

theorem focused_run_start :
    ((start vertex fragment settings).run actions).focused = Action.focusAfter actions := by
  induction actions using List.reverseRecOn with
  | nil => rfl
  | append_singleton actions action ih =>
      rw [run_concat, focused_perform, ih, Action.focusAfter_concat]

/-- Both panes start at their first line and move on by what they hear. -/
theorem pane_run_start (side : Side) :
    ((start vertex fragment settings).run actions).pane side =
      (Action.heard side actions).foldl (Pane.move settings)
        ((start vertex fragment settings).pane side) := by
  induction actions using List.reverseRecOn with
  | nil => rfl
  | append_singleton actions action ih =>
      rw [run_concat, pane_perform, ih, focused_run_start, settings_run, Action.heard_concat]
      by_cases own : Action.focusAfter actions = side
      · rw [if_pos own]
        cases action <;> simp [own, Action.scrolls, Pane.move, start]
      · simp [own]

end

end Viewer

/-- **A viewer is two panes that move on their own.** The focus is on the vertex side iff it has
been switched an even number of times. Each pane stands where it would stand alone, moved by those
actions only that scroll and were taken while it had the focus. The viewer has quit iff one of the
actions was to quit, and nothing that comes later takes this back. -/
theorem viewer_moves_panes_apart (vertex fragment : Shader) (settings : ViewSettings)
    (actions : List Action) :
    let viewer := (Viewer.start vertex fragment settings).run actions
    (viewer.focused = .vertex ↔ Even (actions.count .switchFocus)) ∧
    viewer.vertex = (Action.heard .vertex actions).foldl (Pane.move settings) ⟨vertex, 0⟩ ∧
    viewer.fragment = (Action.heard .fragment actions).foldl (Pane.move settings) ⟨fragment, 0⟩ ∧
    (viewer.mode = .quit ↔ .quit ∈ actions) ∧
    ∀ later, viewer.mode = .quit → (viewer.run later).mode = .quit := by
  intro viewer
  refine ⟨?_, ?_, ?_, ?_, ?_⟩
  · rw [Viewer.focused_run_start, Action.focusAfter]
    by_cases even : Even (actions.count .switchFocus)
    · simp [even]
    · simp [even]
  · exact Viewer.pane_run_start actions vertex fragment settings .vertex
  · exact Viewer.pane_run_start actions vertex fragment settings .fragment
  · rw [Viewer.mode_run_eq_quit_iff]
    simp [Viewer.start]
  · intro later quit
    rw [Viewer.mode_run_eq_quit_iff]
    exact .inl quit

end ShaderLens
