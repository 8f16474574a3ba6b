import ShaderLens.Invocation.Basic
import ShaderLens.Viewer.Key
import ShaderLens.Viewer.Pane

/-!
# The viewer

Two shaders side by side. Scrolling moves the pane that has the focus; quitting ends the session
but changes nothing that is shown.
-/

namespace ShaderLens

inductive Mode
  | viewing
  | quit
  deriving DecidableEq, Repr

structure Viewer where
  mode : Mode := .viewing
  focused : Side := .vertex
  vertex : Pane
  fragment : Pane
  settings : ViewSettings
  deriving DecidableEq, Repr

namespace Viewer

def start (vertex fragment : Shader) (settings : ViewSettings) : Viewer where
  vertex := { shader := vertex }
  fragment := { shader := fragment }
  settings := settings

def pane (viewer : Viewer) : Side → Pane
  | .vertex => viewer.vertex
  | .fragment => viewer.fragment

/-- Changes the pane that has the focus. -/
def changeFocused (viewer : Viewer) (change : Pane → Pane) : Viewer :=
  match viewer.focused with
  | .vertex => { viewer with vertex := change viewer.vertex }
  | .fragment => { viewer with fragment := change viewer.fragment }

def perform (viewer : Viewer) : Action → Viewer
  | .quit => { viewer with mode := .quit }
  | .switchFocus => { viewer with focused := viewer.focused.other }
  | .scrollDown => viewer.changeFocused (·.scrollDown viewer.settings.scrollStep)
  | .scrollUp => viewer.changeFocused (·.scrollUp viewer.settings.scrollStep)
  | .pageDown => viewer.changeFocused (·.scrollDown viewer.settings.pageStep)
  | .pageUp => viewer.changeFocused (·.scrollUp viewer.settings.pageStep)
  | .top => viewer.changeFocused Pane.toTop
  | .bottom => viewer.changeFocused Pane.toBottom
  | .none => viewer

end Viewer

end ShaderLens
