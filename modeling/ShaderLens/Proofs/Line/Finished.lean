import ShaderLens.Proofs.Line.Expansion
import ShaderLens.Proofs.Token.LineFeed

/-!
# Finished lines

A line is finished when a line feed has ended it. Text that is added behind can join with the last
tokens and change their kind, but then there is no line feed among the characters it joins with, or
else they are all of one token that keeps its kind and becomes longer (`Text.first_of_feed`). In
both cases the pieces on the finished lines are the same (`dropLast_lines_tokens`).
-/

namespace ShaderLens

/-- A token that becomes longer keeps its pieces on all lines but its last one. -/
theorem Token.dropLast_pieces_isFront {a b : Token} (kind : b.kind = a.kind)
    (longer : a.text <+: b.text) : a.pieces.dropLast <+: b.pieces.dropLast := by
  obtain ⟨more, text⟩ := longer
  simp only [pieces, ← List.map_dropLast, kind, ← text, Text.lines_append]
  exact (dropLast_isFront_joinLines _ _).map _

theorem Token.lines_singleton (token : Token) : lines [token] = token.pieces := by
  rw [lines_cons]
  exact joinLines_nothing token.pieces_ne_nil

namespace Text

/-- A text that is all one token has that token only. -/
theorem tokens_eq_singleton {t : Text} {token : Token} {later : List Token}
    (h : t.tokens = token :: later) (all : token.text = t) : t.tokens = [token] := by
  have behind := tokens_of_decides (decides_of_tokens h)
  rwa [all, List.drop_length, tokens_nil] at behind

/-- On all lines of a text but the last one the pieces stay the same when the text goes on. -/
theorem dropLast_lines_tokens (t u : Text) :
    (Token.lines t.tokens).dropLast <+: Token.lines (tokens (t ++ u)) := by
  induction t using tokens.induct with
  | case1 =>
      rw [tokens_nil]
      exact List.nil_prefix
  | case2 c rest ih =>
      by_cases feed : '\n' ∈ c :: rest
      · have first := tokens_cons c rest
        have left : tokens (c :: rest ++ u) ≠ [] :=
          mt (tokens_eq_nil_iff _).1 (List.cons_ne_nil _ _)
        obtain ⟨b, later, first'⟩ := List.exists_cons_of_ne_nil left
        obtain rfl | ⟨all, kind, longer⟩ := first_of_feed feed first first'
        · have behind := tokens_of_decides (decides_of_tokens first')
          rw [drop_first_append] at behind
          rw [first, behind, Token.lines_cons, Token.lines_cons]
          exact joinLines_isFront _ (Token.lines_ne_nil _) (Token.lines_ne_nil _) ih
        · have grown := Token.dropLast_pieces_isFront kind (all.symm ▸ longer)
          have front : b.pieces.dropLast <+: (Token.lines (b :: later)).dropLast :=
            dropLast_isFront_joinLines _ _
          rw [first', tokens_eq_singleton first all, Token.lines_singleton]
          exact (grown.trans front).trans (List.dropLast_prefix _)
      · have one : (Token.lines (tokens (c :: rest))).length = 1 := by
          rw [Token.length_lines, join_tokens, List.count_eq_zero.2 feed]
        obtain ⟨pieces, single⟩ := List.length_eq_one_iff.1 one
        rw [single]
        exact List.nil_prefix

end Text

/-- **A finished line stays as it is.** All lines that show a text but the last one, as many as the
text has line feeds, are the first lines that show any text that begins with it. -/
theorem finished_lines_stay {Hue : Type} (palette : Palette Hue) (tabWidth : Nat) (s u : Text) :
    (Display.lines palette tabWidth s.tokens).dropLast.length = s.count '\n' ∧
    (Display.lines palette tabWidth s.tokens).dropLast <+:
      Display.lines palette tabWidth (s ++ u).tokens := by
  constructor
  · rw [List.length_dropLast, Display.length_lines, Text.join_tokens, Nat.add_sub_cancel]
  · rw [Display.lines, ← List.map_dropLast]
    exact (Text.dropLast_lines_tokens s u).map _

end ShaderLens
