import ShaderLens.Proofs.Viewer.Scroll

/-!
# Distances scrolled

Scroll positions are 64-bit counts, and every step is cut off at zero, at the last line and at the
end of the range of counts. All the same it is a step in unbounded numbers that is only held between
the first line and the last (`Pane.toNat_scroll_step`). So steps in one direction come to their sum,
however large that is, and steps in both directions never let one pane overtake another.
-/

namespace ShaderLens

/-- The sum of counts, without a largest number. -/
def Count.total : List UInt64 → Nat
  | [] => 0
  | n :: rest => n.toNat + total rest

namespace Pane

/-- One way of scrolling a pane. -/
inductive Step
  | down (lines : UInt64)
  | up (lines : UInt64)
  | top
  | bottom
  deriving DecidableEq, Repr

def step (pane : Pane) : Step → Pane
  | .down lines => pane.scrollDown lines
  | .up lines => pane.scrollUp lines
  | .top => pane.toTop
  | .bottom => pane.toBottom

/-- The pane after some steps. -/
def walk (pane : Pane) (steps : List Step) : Pane :=
  steps.foldl step pane

/-- Where a step leads from a line of a text, in numbers without an end. -/
def Step.line (last line : Nat) : Step → Nat
  | down lines => min (line + lines.toNat) last
  | up lines => line - lines.toNat
  | top => 0
  | bottom => last

/-! ## One step -/

@[simp] theorem shader_step (pane : Pane) (step : Step) :
    (pane.step step).shader = pane.shader := by
  cases step <;> rfl

@[simp] theorem lastLine_scrollDown (pane : Pane) (lines : UInt64) :
    (pane.scrollDown lines).lastLine = pane.lastLine := rfl

/-- A step on a pane is the step in numbers without an end. -/
theorem toNat_scroll_step (pane : Pane) (step : Step) :
    (pane.step step).scroll.toNat = step.line pane.lastLine.toNat pane.scroll.toNat := by
  cases step with
  | down lines => exact pane.toNat_scroll_scrollDown lines
  | up lines => exact pane.toNat_scroll_scrollUp lines
  | top => rfl
  | bottom => rfl

theorem Step.line_le_line {step : Step} {last a b : Nat} (behind : a ≤ b) :
    step.line last a ≤ step.line last b := by
  cases step with
  | down lines | up lines =>
      simp only [line]
      omega
  | top | bottom => exact Nat.le_refl _

/-- A step that is cut short is not undone by the same step up, except from the first line. -/
theorem Step.line_up_down {lines : UInt64} {last line : Nat} :
    (up lines).line last ((down lines).line last line) = line ↔
      line = 0 ∨ line + lines.toNat ≤ last := by
  simp only [Step.line]
  omega

/-! ## Many steps -/

variable {pane other : Pane}

theorem toNat_scroll_foldl_scrollDown (counts : List UInt64)
    (within : pane.scroll.toNat ≤ pane.lastLine.toNat) :
    (counts.foldl scrollDown pane).scroll.toNat =
      min (pane.scroll.toNat + Count.total counts) pane.lastLine.toNat := by
  induction counts generalizing pane with
  | nil => exact (Nat.min_eq_left within).symm
  | cons lines rest ih =>
      have moved := pane.toNat_scroll_scrollDown lines
      have still : (pane.scrollDown lines).scroll.toNat ≤
          (pane.scrollDown lines).lastLine.toNat := by
        rw [moved]
        exact Nat.min_le_right _ _
      rw [List.foldl_cons, ih still, moved, lastLine_scrollDown, Count.total]
      omega

theorem toNat_scroll_foldl_scrollUp (counts : List UInt64) :
    (counts.foldl scrollUp pane).scroll.toNat = pane.scroll.toNat - Count.total counts := by
  induction counts generalizing pane with
  | nil => rfl
  | cons lines rest ih => rw [List.foldl_cons, ih, toNat_scroll_scrollUp, Count.total, Nat.sub_sub]

/-- The last line depends on the text only. -/
theorem lastLine_congr (text : pane.shader.text = other.shader.text) :
    pane.lastLine = other.lastLine := by
  rw [lastLine, lastLine, lineCount, lineCount, text]

theorem scroll_step_le (text : pane.shader.text = other.shader.text)
    (behind : pane.scroll ≤ other.scroll) (step : Step) :
    (pane.step step).scroll ≤ (other.step step).scroll := by
  rw [UInt64.le_iff_toNat_le, toNat_scroll_step, toNat_scroll_step, lastLine_congr text]
  exact Step.line_le_line (UInt64.le_iff_toNat_le.1 behind)

theorem scroll_walk_le (text : pane.shader.text = other.shader.text)
    (behind : pane.scroll ≤ other.scroll) (steps : List Step) :
    (pane.walk steps).scroll ≤ (other.walk steps).scroll := by
  induction steps generalizing pane other with
  | nil => exact behind
  | cons step rest ih =>
      apply ih
      · rw [shader_step, shader_step, text]
      · exact scroll_step_le text behind step

end Pane

/-- **Scrolling adds up.** The last line is the one that counting the lines makes the last, as long
as 64 bits can number it. From a line of the text, steps down lead as far as their sum and no
farther than the last line, and steps up as far as their sum and no farther than the first, be it
ever so large. A step down and the same step up lead back to where they began iff that is the first
line or the step down is not cut short. Of two panes with the same text the one behind never gets
ahead of the other by the same steps. -/
theorem scrolling_adds_up (pane : Pane) :
    let line := pane.scroll.toNat
    let last := pane.lastLine.toNat
    (pane.lineCount ≤ 2 ^ 64 → last = pane.lineCount - 1) ∧
    (line ≤ last → ∀ counts, (counts.foldl Pane.scrollDown pane).scroll.toNat =
      min (line + Count.total counts) last) ∧
    (∀ counts, (counts.foldl Pane.scrollUp pane).scroll.toNat = line - Count.total counts) ∧
    (∀ lines, ((pane.scrollDown lines).scrollUp lines).scroll = pane.scroll ↔
      line = 0 ∨ line + lines.toNat ≤ last) ∧
    ∀ (other : Pane) (steps : List Pane.Step), pane.shader.text = other.shader.text →
      pane.scroll ≤ other.scroll → (pane.walk steps).scroll ≤ (other.walk steps).scroll := by
  intro line last
  refine ⟨?_, ?_, ?_, ?_, ?_⟩
  · intro countable
    exact Pane.toNat_lastLine countable
  · intro within counts
    exact Pane.toNat_scroll_foldl_scrollDown counts within
  · intro counts
    exact Pane.toNat_scroll_foldl_scrollUp counts
  · intro lines
    rw [← UInt64.toNat_inj, Pane.toNat_scroll_scrollUp, Pane.toNat_scroll_scrollDown]
    exact Pane.Step.line_up_down
  · intro other steps text behind
    exact Pane.scroll_walk_le text behind steps

/-- Steps whose sum is past the end of a count, on a text of four lines. -/
theorem far_steps_add_up :
    let pane : Pane := ⟨⟨"a\nb\nc\nd".toList, []⟩, 1⟩
    let other : Pane := ⟨⟨"a\nb\nc\nd".toList, "stdin".toList⟩, 2⟩
    let far : UInt64 := 18446744073709551615
    let steps : List Pane.Step := [.down far, .up 2, .bottom, .up 1, .down 5, .top, .down 1]
    pane.lineCount ≤ 2 ^ 64 ∧ pane.lastLine.toNat = 3 ∧
      pane.scroll.toNat ≤ pane.lastLine.toNat ∧
      ([far, 0, far].foldl Pane.scrollDown pane).scroll.toNat = 3 ∧
      ([far, 0, far].foldl Pane.scrollUp pane).scroll.toNat = 0 ∧
      ((pane.scrollDown 2).scrollUp 2).scroll = pane.scroll ∧
      ((pane.scrollDown 3).scrollUp 3).scroll ≠ pane.scroll ∧
      pane.shader.text = other.shader.text ∧ pane.scroll ≤ other.scroll ∧
      (pane.walk steps).scroll ≤ (other.walk steps).scroll := by
  intro pane other far steps
  obtain ⟨counted, down, up, back, apart⟩ := scrolling_adds_up pane
  have countable : pane.lineCount ≤ 2 ^ 64 := by decide
  have last : pane.lastLine.toNat = 3 := counted countable
  have within : pane.scroll.toNat ≤ pane.lastLine.toNat := by
    rw [last]
    decide
  refine ⟨countable, last, within, ?_, ?_, ?_, ?_, rfl, by decide, ?_⟩
  · rw [down within, last]
    decide
  · rw [up]
    decide
  · rw [back, last]
    decide
  · rw [ne_eq, back, last]
    decide
  · exact apart other steps rfl (by decide)

end ShaderLens
