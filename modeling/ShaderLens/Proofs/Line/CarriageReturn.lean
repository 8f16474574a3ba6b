import ShaderLens.Proofs.Line.Expansion
import ShaderLens.Proofs.Token.CarriageReturn

/-!
# Carriage returns are not seen

A carriage return shows nothing, so lines without their carriage returns look the same
(`Display.lines_withoutReturns`). Texts that differ only in what their line breaks are written with
are therefore shown alike (`line_breaks_show_alike`).
-/

namespace ShaderLens

variable {Hue : Type}

theorem TabStop.expand_withoutReturns (every column : Nat) (t : Text) :
    expand every column t.withoutReturns = expand every column t := by
  induction t generalizing column with
  | nil => rfl
  | cons c rest ih =>
      by_cases back : c = '\r'
      · subst back
        rw [Text.withoutReturns_return, ih]
        rfl
      · rw [Text.withoutReturns, List.filter_cons_of_pos (by simpa using back), expand, expand,
          ← Text.withoutReturns, ih]

/-- To take out carriage returns and to cut into lines can be done in either order. -/
theorem Text.lines_withoutReturns (t : Text) :
    lines t.withoutReturns = t.lines.map withoutReturns := by
  induction t with
  | nil => rfl
  | cons c rest ih =>
      have rest_lines := lines_append [c] rest
      rw [List.singleton_append] at rest_lines
      have front : lines (withoutReturns [c]) = (lines [c]).map withoutReturns := by
        by_cases back : c = '\r'
        · subst back
          rfl
        · have kept : withoutReturns [c] = [c] := List.filter_cons_of_pos (by simpa using back)
          rw [kept]
          by_cases feed : c = '\n'
          · subst feed
            rfl
          · simp [lines, cutAt, feed, continueLine, kept]
      rw [rest_lines, map_joinLines withoutReturns withoutReturns_append (lines_ne_nil rest), ← ih,
        ← front, ← lines_append, ← withoutReturns_append, List.singleton_append]

namespace Token

theorem pieces_withoutReturns (token : Token) :
    token.withoutReturns.pieces = token.pieces.map (List.map withoutReturns) := by
  simp [pieces, withoutReturns, Text.lines_withoutReturns, Function.comp_def]

theorem lines_withoutReturns (tokens : List Token) :
    lines (tokens.map withoutReturns) = (lines tokens).map (List.map withoutReturns) := by
  induction tokens with
  | nil => rfl
  | cons token rest ih =>
      have hom : ∀ x y : List Token,
          (x ++ y).map withoutReturns = x.map withoutReturns ++ y.map withoutReturns :=
        fun _ _ => List.map_append
      rw [List.map_cons, lines_cons, ih, pieces_withoutReturns, lines_cons,
        map_joinLines (List.map withoutReturns) hom (lines_ne_nil rest)]

end Token

namespace Display

variable (palette : Palette Hue)

theorem spans_withoutReturns (every column : Nat) (pieces : List Token) :
    spans palette every column (pieces.map Token.withoutReturns) =
      spans palette every column pieces := by
  induction pieces generalizing column with
  | nil => rfl
  | cons piece rest ih =>
      rw [List.map_cons, spans, spans, Token.withoutReturns, TabStop.expand_withoutReturns, ih]

/-- Lines are the same without carriage returns, spans and styles included. -/
theorem lines_withoutReturns (tabWidth : Nat) (tokens : List Token) :
    lines palette tabWidth (tokens.map Token.withoutReturns) = lines palette tabWidth tokens := by
  rw [lines, Token.lines_withoutReturns, List.map_map, lines]
  apply List.map_congr_left
  intro pieces _
  exact spans_withoutReturns palette _ 0 pieces

end Display

/-- **Line breaks of either kind look the same.** With a carriage return put in front of every line
feed, a text has as many tokens as before and of the same kinds, and it is shown by the same lines,
spans and styles included. -/
theorem line_breaks_show_alike (palette : Palette Hue) (tabWidth : Nat) (s : Text) :
    s.withReturns.tokens.length = s.tokens.length ∧
    s.withReturns.tokens.map Token.kind = s.tokens.map Token.kind ∧
    Display.lines palette tabWidth s.withReturns.tokens =
      Display.lines palette tabWidth s.tokens := by
  have alike := s.returned_withReturns.map_withoutReturns_tokens
  refine ⟨?_, ?_, ?_⟩
  · have count := congrArg List.length alike
    rw [List.length_map, List.length_map] at count
    exact count.symm
  · have kinds := congrArg (List.map Token.kind) alike
    rw [List.map_map, List.map_map] at kinds
    exact kinds.symm
  · rw [← Display.lines_withoutReturns, ← alike, Display.lines_withoutReturns]

/-- The directive takes the carriage return along, and the backslash masks the other one. -/
example : Text.tokens (Text.withReturns "#if\n\"\\\n\"".toList) =
    [⟨.preprocessor, "#if\r".toList⟩, ⟨.whitespace, "\n".toList⟩,
      ⟨.string, "\"\\\r\n\"".toList⟩] := by
  decide +kernel

end ShaderLens
