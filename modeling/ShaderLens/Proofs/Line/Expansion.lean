import ShaderLens.Line.Display
import ShaderLens.Proofs.Line.Joining
import ShaderLens.Proofs.Token.Partition

/-!
# Lines show the expanded text

What a line shows is found in one pass over its characters, from left to right (`TabStop.pass`). The
pass knows nothing of tokens: it takes each character with a mark and leaves the mark on what is
shown for it. With styles for marks it gives the spans of the line one behind the other
(`styled_spans`), and the lines it runs over are those of the joined text (`map_styled_lines`). So
the text shown does not depend on how it is divided into tokens.

The division is seen in the spans only: one for each piece of a token that shows anything
(`spans_eq_expansions`).
-/

namespace ShaderLens

variable {Hue : Type}

namespace TabStop

/-- The first tab stop behind a column. -/
def stop (every column : Nat) : Nat :=
  (column / every + 1) * every

/-- What is shown for the characters of a line, each with the mark of the character it is for. -/
def pass {α : Type} (every : Nat) : Nat → List (Char × α) → List (Char × α)
  | _, [] => []
  | column, (c, mark) :: rest =>
      if c = '\t' then
        List.replicate (stop every column - column) (' ', mark) ++
          pass every (stop every column) rest
      else if c = '\r' then pass every column rest
      else if isControl c then (replacement, mark) :: pass every (column + 1) rest
      else (c, mark) :: pass every (column + charWidth c) rest

variable {α : Type} {every : Nat}

theorem stop_eq (positive : 0 < every) (column : Nat) :
    stop every column = column + (every - column % every) := by
  have whole := Nat.div_add_mod column every
  have part := Nat.mod_lt column positive
  rw [stop, Nat.add_mul, Nat.one_mul, Nat.mul_comm]
  omega

theorem pass_cons (positive : 0 < every) (column : Nat) (c : Char) (mark : α)
    (rest : List (Char × α)) :
    pass every column ((c, mark) :: rest) =
      (shown every column c).map (·, mark) ++
        pass every (column + (shown every column c).width) rest := by
  have stops := stop_eq positive column
  rw [pass, shown]
  split
  · rw [Text.width_spaces, List.map_replicate, ← stops, Nat.eq_sub_of_add_eq' stops.symm]
  · split
    · simp
    · split
      · simp [charWidth_replacement]
      · simp

theorem columnAfter_cons (column : Nat) (c : Char) (rest : Text) :
    columnAfter every column (c :: rest) =
      columnAfter every (column + (shown every column c).width) rest := by
  simp [columnAfter, expand, Nat.add_assoc]

theorem columnAfter_append (column : Nat) (s t : Text) :
    columnAfter every column (s ++ t) = columnAfter every (columnAfter every column s) t := by
  simp [columnAfter, expand_append, Nat.add_assoc]

theorem pass_append (positive : 0 < every) (column : Nat) (a b : List (Char × α)) :
    pass every column (a ++ b) =
      pass every column a ++ pass every (columnAfter every column (a.map Prod.fst)) b := by
  induction a generalizing column with
  | nil => rfl
  | cons marked rest ih =>
      obtain ⟨c, mark⟩ := marked
      rw [List.cons_append, pass_cons positive, pass_cons positive, ih, List.map_cons,
        columnAfter_cons, List.append_assoc]

/-- The marks make no difference to what is shown. -/
theorem map_fst_pass (positive : 0 < every) (column : Nat) (line : List (Char × α)) :
    (pass every column line).map Prod.fst = expand every column (line.map Prod.fst) := by
  induction line generalizing column with
  | nil => rfl
  | cons marked rest ih =>
      obtain ⟨c, mark⟩ := marked
      rw [pass_cons positive, List.map_append, ih, List.map_cons, expand, List.map_map]
      simp [Function.comp_def]

theorem pass_map (positive : 0 < every) (column : Nat) (mark : α) (t : Text) :
    pass every column (t.map (·, mark)) = (expand every column t).map (·, mark) := by
  induction t generalizing column with
  | nil => rfl
  | cons c rest ih => rw [List.map_cons, pass_cons positive, ih, expand, List.map_append]

end TabStop

namespace Token

variable {palette : Palette Hue} {token : Token} {tokens rest : List Token}

/-- The characters of tokens, each in the style of its token. -/
def styled (palette : Palette Hue) (tokens : List Token) : List (Char × Style Hue) :=
  tokens.flatMap fun token => token.text.map (·, palette.styleOf token.kind)

/-- The pieces on the line with a given index. A token goes on for as many lines as it has line
feeds, and the tokens behind it begin on the last of these. -/
def piecesOn : Nat → List Token → List Token
  | _, [] => []
  | k, token :: rest =>
      (((token.text.splitOn '\n')[k]?).map (Token.mk token.kind)).toList ++
        if token.text.count '\n' ≤ k then piecesOn (k - token.text.count '\n') rest else []

theorem lines_cons : lines (token :: rest) = joinLines token.pieces (lines rest) := rfl

theorem pieces_ne_nil (token : Token) : token.pieces ≠ [] :=
  mt List.map_eq_nil_iff.1 (Text.lines_ne_nil token.text)

theorem lines_ne_nil (tokens : List Token) : lines tokens ≠ [] := by
  induction tokens with
  | nil => exact List.cons_ne_nil [] []
  | cons token rest ih => exact joinLines_ne_nil ih

/-- The pieces on a line of the tokens have the text of that line. -/
theorem map_join_lines (tokens : List Token) :
    (lines tokens).map join = (join tokens).lines := by
  induction tokens with
  | nil => rfl
  | cons token rest ih =>
      have alone : token.pieces.map join = token.text.lines := by
        simp [pieces, Function.comp_def]
      rw [lines_cons, map_joinLines join join_append (lines_ne_nil rest), ih, alone, join_cons,
        Text.lines_append]

theorem length_lines (tokens : List Token) :
    (lines tokens).length = (join tokens).count '\n' + 1 := by
  rw [← Text.length_lines, ← map_join_lines, List.length_map]

theorem styled_cons : styled palette (token :: rest) =
    token.text.map (·, palette.styleOf token.kind) ++ styled palette rest :=
  List.flatMap_cons

theorem map_fst_styled (palette : Palette Hue) (tokens : List Token) :
    (styled palette tokens).map Prod.fst = join tokens := by
  induction tokens with
  | nil => rfl
  | cons token rest ih =>
      rw [styled_cons, List.map_append, ih, join_cons, List.map_map]
      simp [Function.comp_def]

/-- The lines of tokens are those of the joined text. -/
theorem map_styled_lines (palette : Palette Hue) (tokens : List Token) :
    (lines tokens).map (styled palette) = (styled palette tokens).splitOnP (·.1 == '\n') := by
  induction tokens with
  | nil => simp [lines, styled, List.splitOnP_nil]
  | cons token rest ih =>
      have alone : token.pieces.map (styled palette) =
          (token.text.map (·, palette.styleOf token.kind)).splitOnP (·.1 == '\n') := by
        rw [← map_splitOnP, ← List.splitOn_eq_splitOnP, ← Text.lines_eq_splitOn]
        simp [pieces, styled]
      have hom : ∀ x y, styled palette (x ++ y) = styled palette x ++ styled palette y :=
        fun _ _ => List.flatMap_append
      rw [lines_cons, map_joinLines (styled palette) hom (lines_ne_nil rest), ih, alone,
        styled_cons, splitOnP_append]

theorem getD_lines (tokens : List Token) (k : Nat) :
    (lines tokens).getD k [] = piecesOn k tokens := by
  induction tokens generalizing k with
  | nil => cases k <;> rfl
  | cons token rest ih =>
      have feeds : token.pieces.length = token.text.count '\n' + 1 := by
        rw [pieces, List.length_map, Text.length_lines]
      have first : token.pieces.getD k [] =
          (((token.text.splitOn '\n')[k]?).map (Token.mk token.kind)).toList := by
        rw [pieces, Text.lines_eq_splitOn]
        cases h : (token.text.splitOn '\n')[k]? <;> simp [h]
      rw [lines_cons, getD_joinLines token.pieces_ne_nil (lines_ne_nil rest), first, feeds,
        piecesOn, Nat.add_sub_add_right, ih]
      simp only [Nat.add_le_add_iff_right]

end Token

namespace Display

/-- The characters of spans, each in the style of its span. -/
def styled (line : List (Span Hue)) : List (Char × Style Hue) :=
  line.flatMap fun span => span.content.map (·, span.style)

/-- The text of spans. -/
def plain (line : List (Span Hue)) : Text :=
  line.flatMap Span.content

/-- The pieces that come behind some text of a line, each with what it shows: it begins in the
column that all the text in front of it ends in. -/
def expansions (every : Nat) (front : Text) : List Token → List (TokenKind × Text)
  | [] => []
  | piece :: rest =>
      (piece.kind, TabStop.expand every (TabStop.columnAfter every 0 front) piece.text) ::
        expansions every (front ++ piece.text) rest

variable {palette : Palette Hue} {every : Nat} {column : Nat} {piece : Token}

theorem spans_cons (rest : List Token) :
    spans palette every column (piece :: rest) =
      (if TabStop.expand every column piece.text = [] then []
        else [⟨TabStop.expand every column piece.text, palette.styleOf piece.kind⟩]) ++
      spans palette every (TabStop.columnAfter every column piece.text) rest := by
  rw [spans]
  split <;> rfl

/-- One behind the other, the spans of a line are one pass over its characters. -/
theorem styled_spans (positive : 0 < every) (column : Nat) (pieces : List Token) :
    styled (spans palette every column pieces) =
      TabStop.pass every column (Token.styled palette pieces) := by
  induction pieces generalizing column with
  | nil => rfl
  | cons piece rest ih =>
      have text : (piece.text.map (·, palette.styleOf piece.kind)).map Prod.fst = piece.text := by
        simp [Function.comp_def]
      rw [spans_cons, styled, List.flatMap_append, ← styled, ← styled, ih, Token.styled_cons,
        TabStop.pass_append positive, text, TabStop.pass_map positive]
      split
      · next nothing => rw [nothing]; rfl
      · simp [styled]

theorem map_fst_styled (line : List (Span Hue)) : (styled line).map Prod.fst = plain line := by
  induction line with
  | nil => rfl
  | cons span rest ih =>
      rw [styled, List.flatMap_cons, List.map_append, ← styled, ih, List.map_map]
      simp [plain, Function.comp_def]

theorem content_ne_nil_of_mem_spans {pieces : List Token} {span : Span Hue}
    (member : span ∈ spans palette every column pieces) : span.content ≠ [] := by
  induction pieces generalizing column with
  | nil => simp [spans] at member
  | cons piece rest ih =>
      rw [spans_cons, List.mem_append] at member
      obtain here | later := member
      · split at here
        · simp at here
        · next shown =>
            rw [List.mem_singleton.1 here]
            exact shown
      · exact ih later

/-- There is one span for each piece that shows something. -/
theorem spans_eq_expansions (front : Text) (pieces : List Token) :
    spans palette every (TabStop.columnAfter every 0 front) pieces =
      ((expansions every front pieces).filter (·.2 ≠ [])).map
        fun shown => ⟨shown.2, palette.styleOf shown.1⟩ := by
  induction pieces generalizing front with
  | nil => rfl
  | cons piece rest ih =>
      rw [spans_cons, ← TabStop.columnAfter_append, ih, expansions]
      split
      · next nothing => rw [List.filter_cons_of_neg (by simp [nothing])]; rfl
      · next shown => rw [List.filter_cons_of_pos (by simp [shown])]; rfl

section

variable (palette : Palette Hue) (tabWidth : Nat) (tokens : List Token)

theorem length_lines :
    (lines palette tabWidth tokens).length = (Token.join tokens).count '\n' + 1 := by
  rw [lines, List.length_map, Token.length_lines]

/-- The lines are one pass each over the lines of the styled text. -/
theorem map_styled_lines :
    (lines palette tabWidth tokens).map styled =
      ((Token.styled palette tokens).splitOnP (·.1 == '\n')).map
        (TabStop.pass (max tabWidth 1) 0) := by
  have positive : 0 < max tabWidth 1 := by omega
  rw [lines, List.map_map, ← Token.map_styled_lines, List.map_map]
  apply List.map_congr_left
  intro pieces _
  exact styled_spans positive 0 pieces

/-- The lines of the styled text are those of the text. -/
theorem map_fst_splitOnP_styled :
    ((Token.styled palette tokens).splitOnP (·.1 == '\n')).map (List.map Prod.fst) =
      (Token.join tokens).splitOn '\n' := by
  rw [List.splitOn_eq_splitOnP, ← Token.map_fst_styled palette]
  exact map_splitOnP Prod.fst (· == '\n') _

theorem map_plain_lines :
    (lines palette tabWidth tokens).map plain =
      ((Token.join tokens).splitOn '\n').map (TabStop.expand (max tabWidth 1) 0) := by
  have positive : 0 < max tabWidth 1 := by omega
  have forget : (plain : List (Span Hue) → Text) = List.map Prod.fst ∘ styled := by
    funext line
    exact (map_fst_styled line).symm
  rw [forget, ← List.map_map, map_styled_lines, List.map_map, ← map_fst_splitOnP_styled palette,
    List.map_map]
  apply List.map_congr_left
  intro line _
  exact TabStop.map_fst_pass positive 0 line

theorem getD_lines (k : Nat) :
    (lines palette tabWidth tokens).getD k [] =
      spans palette (max tabWidth 1) 0 (Token.piecesOn k tokens) := by
  rw [← Token.getD_lines, lines, List.getD_eq_getElem?_getD, List.getElem?_map,
    List.getD_eq_getElem?_getD]
  exact Option.getD_map (spans palette (max tabWidth 1) 0) [] _

end

end Display

/-- **Lines show the expanded text.** There is one line for each line of the joined text. The spans
of a line are, character by character, one pass over the characters of that line in the styles of
their tokens, so its text is settled by the joined text alone. No span is empty, and each line has
one for every piece of a token on it that shows anything. -/
theorem lines_show_expansion (palette : Palette Hue) (tabWidth : Nat) (tokens : List Token) :
    let every := max tabWidth 1
    let shown := Display.lines palette tabWidth tokens
    let segments := (Token.styled palette tokens).splitOnP (·.1 == '\n')
    shown.length = (Token.join tokens).count '\n' + 1 ∧
    segments.map (·.map Prod.fst) = (Token.join tokens).splitOn '\n' ∧
    shown.map Display.styled = segments.map (TabStop.pass every 0) ∧
    shown.map Display.plain = ((Token.join tokens).splitOn '\n').map (TabStop.expand every 0) ∧
    (∀ line ∈ shown, ∀ span ∈ line, span.content ≠ []) ∧
    ∀ k, shown.getD k [] =
      ((Display.expansions every [] (Token.piecesOn k tokens)).filter (·.2 ≠ [])).map
        fun piece => ⟨piece.2, palette.styleOf piece.1⟩ := by
  intro every shown segments
  refine ⟨Display.length_lines palette tabWidth tokens,
    Display.map_fst_splitOnP_styled palette tokens,
    Display.map_styled_lines palette tabWidth tokens,
    Display.map_plain_lines palette tabWidth tokens, ?_, ?_⟩
  · intro line member span inside
    obtain ⟨pieces, _, rfl⟩ := List.mem_map.1 member
    exact Display.content_ne_nil_of_mem_spans inside
  · intro k
    rw [← Display.spans_eq_expansions]
    exact Display.getD_lines palette tabWidth tokens k

/-- The tab begins in the third column, since the character in front of it takes two. -/
example : (Display.lines .midnight 4 (Text.tokens "日\tx\n\ty".toList)).map Display.plain =
    ["日  x".toList, "    y".toList] := by
  decide +kernel

end ShaderLens
