import ShaderLens.Proofs.Line.Expansion
import ShaderLens.Proofs.Viewer.Motion

/-!
# Scroll positions

A pane is never scrolled past the last of its lines, whatever the steps are (`Pane.OnLine`). Its
lines are counted by the line feeds of its text, and drawing it gives just as many
(`Pane.length_lines`), so there always is a line to begin with.
-/

namespace ShaderLens

namespace Pane

/-- The pane is scrolled to one of its lines. -/
def OnLine (pane : Pane) : Prop :=
  pane.scroll.toNat < pane.lineCount

variable (pane : Pane)

theorem lineCount_pos : 0 < pane.lineCount :=
  Text.lineCount_pos pane.shader.text

/-- A number of a line that is too large for a count can only become smaller. -/
theorem toNat_lastLine_lt : pane.lastLine.toNat < pane.lineCount := by
  have positive := pane.lineCount_pos
  have smaller := Nat.mod_le (pane.lineCount - 1) (2 ^ 64)
  rw [lastLine, UInt64.toNat_ofNat']
  omega

theorem toNat_lastLine {pane : Pane} (countable : pane.lineCount ≤ 2 ^ 64) :
    pane.lastLine.toNat = pane.lineCount - 1 := by
  have positive := pane.lineCount_pos
  rw [lastLine, UInt64.toNat_ofNat', Nat.mod_eq_of_lt (by omega)]

/-- The lines that are drawn are those that are counted. -/
theorem length_lines {Hue : Type} (palette : Palette Hue) (tabWidth : Nat) :
    (Display.lines palette tabWidth pane.shader.text.tokens).length = pane.lineCount := by
  rw [Display.length_lines, Text.join_tokens, lineCount, Text.lineCount, Text.length_lines]

@[simp] theorem shader_move (settings : ViewSettings) (action : Action) :
    (pane.move settings action).shader = pane.shader := by
  cases action <;> rfl

/-- A sum that is cut off at the end of its range would be cut off at the last line as well. -/
theorem toNat_scroll_scrollDown (lines : UInt64) :
    (pane.scrollDown lines).scroll.toNat =
      min (pane.scroll.toNat + lines.toNat) pane.lastLine.toNat := by
  have fits : pane.lastLine.toNat ≤ Count.largest := Nat.le_of_lt_succ pane.lastLine.toNat_lt
  change (min (Count.add pane.scroll lines) pane.lastLine).toNat = _
  rw [UInt64.toNat_min, Count.toNat_add]
  omega

theorem toNat_scroll_scrollUp (lines : UInt64) :
    (pane.scrollUp lines).scroll.toNat = pane.scroll.toNat - lines.toNat :=
  Count.toNat_sub pane.scroll lines

variable {pane}

theorem onLine_of_le_lastLine (within : pane.scroll.toNat ≤ pane.lastLine.toNat) : pane.OnLine :=
  Nat.lt_of_le_of_lt within pane.toNat_lastLine_lt

theorem onLine_scrollDown (lines : UInt64) : (pane.scrollDown lines).OnLine := by
  apply onLine_of_le_lastLine
  rw [toNat_scroll_scrollDown]
  exact Nat.min_le_right _ _

theorem OnLine.scrollUp (here : pane.OnLine) (lines : UInt64) : (pane.scrollUp lines).OnLine := by
  have smaller : (pane.scrollUp lines).scroll.toNat ≤ pane.scroll.toNat := by
    rw [toNat_scroll_scrollUp]
    exact Nat.sub_le _ _
  exact Nat.lt_of_le_of_lt smaller here

theorem onLine_toTop : pane.toTop.OnLine :=
  pane.lineCount_pos

theorem onLine_toBottom : pane.toBottom.OnLine :=
  onLine_of_le_lastLine (Nat.le_refl _)

theorem OnLine.move (here : pane.OnLine) (settings : ViewSettings) (action : Action) :
    (pane.move settings action).OnLine := by
  cases action with
  | scrollDown | pageDown => exact onLine_scrollDown _
  | scrollUp | pageUp => exact here.scrollUp _
  | top => exact onLine_toTop
  | bottom => exact onLine_toBottom
  | switchFocus | quit | none => exact here

end Pane

namespace Viewer

variable {viewer : Viewer}

theorem onLine_perform (here : ∀ side, (viewer.pane side).OnLine) (action : Action) (side : Side) :
    ((viewer.perform action).pane side).OnLine := by
  rw [pane_perform]
  split
  · exact (here side).move _ _
  · exact here side

theorem onLine_run (here : ∀ side, (viewer.pane side).OnLine) (actions : List Action)
    (side : Side) : ((viewer.run actions).pane side).OnLine := by
  induction actions generalizing viewer with
  | nil => exact here side
  | cons action rest ih => exact ih (onLine_perform here action)

theorem shader_perform (viewer : Viewer) (action : Action) (side : Side) :
    ((viewer.perform action).pane side).shader = (viewer.pane side).shader := by
  rw [pane_perform]
  split
  · exact Pane.shader_move _ _ _
  · rfl

theorem shader_run (viewer : Viewer) (actions : List Action) (side : Side) :
    ((viewer.run actions).pane side).shader = (viewer.pane side).shader := by
  induction actions generalizing viewer with
  | nil => rfl
  | cons action rest ih => rw [run, List.foldl_cons, ← run, ih, shader_perform]

/-- A viewer starts at the first lines, and even an empty text has one. -/
theorem onLine_start (vertex fragment : Shader) (settings : ViewSettings) (side : Side) :
    ((start vertex fragment settings).pane side).OnLine := by
  cases side
  · exact Pane.lineCount_pos _
  · exact Pane.lineCount_pos _

theorem onLine_run_start (vertex fragment : Shader) (settings : ViewSettings)
    (actions : List Action) (side : Side) :
    (((start vertex fragment settings).run actions).pane side).OnLine :=
  onLine_run (onLine_start vertex fragment settings) actions side

end Viewer

/-- **A viewer always has a line to show.** Whatever actions it has performed, both panes show the
shaders they were opened with, drawing a pane gives as many lines as the pane counts, and the line
that it is scrolled to is one of them. -/
theorem viewer_stays_on_lines (vertex fragment : Shader) (settings : ViewSettings)
    (actions : List Action) :
    let viewer := (Viewer.start vertex fragment settings).run actions
    viewer.vertex.shader = vertex ∧ viewer.fragment.shader = fragment ∧
    ∀ (side : Side) (Hue : Type) (palette : Palette Hue) (tabWidth : Nat),
      let pane := viewer.pane side
      let drawn := Display.lines palette tabWidth pane.shader.text.tokens
      drawn.length = pane.lineCount ∧ pane.scroll.toNat < drawn.length := by
  intro viewer
  refine ⟨?_, ?_, ?_⟩
  · exact Viewer.shader_run _ actions .vertex
  · exact Viewer.shader_run _ actions .fragment
  · intro side Hue palette tabWidth pane drawn
    have counted := pane.length_lines palette tabWidth
    have here : pane.OnLine := Viewer.onLine_run_start vertex fragment settings actions side
    exact ⟨counted, counted ▸ here⟩

end ShaderLens
