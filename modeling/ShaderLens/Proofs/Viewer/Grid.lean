import ShaderLens.Proofs.Viewer.Runs
import ShaderLens.Proofs.Viewer.Window

/-!
# The grid of a screen

Whatever is shown, a screen fills its terminal exactly: it is composed of two panes side by side and
the hints below, each of which fills a rectangle of its own (`Screen.composed_draw`). A pane keeps
what it shows between its borders, one display line in each row (`Screen.isPane_paneRows`), so
nothing gets from one pane into the other.
-/

namespace ShaderLens

variable {Hue : Type}

namespace Screen

/-- Rows that fill a rectangle. -/
structure Fills (size : Size) (rows : List (Row Hue)) : Prop where
  length_eq : rows.length = size.height
  width_eq : ∀ row ∈ rows, Row.width row = size.width

/-- The size of a pane on a screen. Of several rows the last one is for the hints. -/
def paneSize (size : Size) (side : Side) : Size :=
  ⟨paneWidth size side, if size.height < 2 then size.height else size.height - 1⟩

/-- A screen of the rows of two panes, side by side, with hints below. -/
structure Composed (size : Size) (rows : Side → List (Row Hue))
    (hints screen : List (Row Hue)) : Prop where
  screen_eq : screen = List.zipWith (· ++ ·) (rows .vertex) (rows .fragment) ++ hints
  panes : ∀ side, Fills (paneSize size side) (rows side)
  below : Fills ⟨size.width, size.height - (paneSize size .vertex).height⟩ hints

/-- The characters of a border at both ends of a row. -/
def edges (height index : Nat) : Char × Char :=
  if index = 0 then ('┌', '┐') else if index + 1 = height then ('└', '┘') else ('│', '│')

/-- A row that has an edge at both ends. In a single column there is the left one only. -/
def Between (width : Nat) (left right : Cell Hue) (row : Row Hue) : Prop :=
  match width with
  | 0 => row = []
  | 1 => row = [left]
  | inner + 2 => ∃ middle, row = left :: middle ++ [right] ∧ Row.width middle = inner

/-- Rows that show some display lines in a pane: they fill its rectangle, each has the border at its
ends, and those between the first and the last show one line each, from the first one on. A line is
cut at the width between the borders, and characters that are wider than that have no part in it.
Rows without a line are blank. -/
structure IsPane (border blank : Style Hue) (shown : List (List (Span Hue))) (size : Size)
    (rows : List (Row Hue)) : Prop where
  fills : Fills size rows
  bordered : ∀ index row, rows[index]? = some row →
    Between size.width ⟨(edges size.height index).1, border⟩
      ⟨(edges size.height index).2, border⟩ row
  lines : ∀ index middle, index + 2 < size.height →
    rows[index + 1]? = some (⟨'│', border⟩ :: middle ++ [⟨'│', border⟩]) →
    Row.IsCut (size.width - 2) ⟨' ', blank⟩
      (Row.showable (size.width - 2) (cells (shown.getD index []))) middle

/-! ## Composing -/

section

variable {size : Size} {rows : Side → List (Row Hue)} {hints screen : List (Row Hue)}

theorem paneWidth_add (size : Size) :
    paneWidth size .vertex + paneWidth size .fragment = size.width := by
  change (size.width + 1) / 2 + size.width / 2 = size.width
  omega

theorem Composed.fills (composed : Composed size rows hints screen) : Fills size screen := by
  obtain ⟨rfl, panes, below⟩ := composed
  have above : (paneSize size .vertex).height ≤ size.height := by
    unfold paneSize
    dsimp only
    split <;> omega
  constructor
  · have left := (panes .vertex).length_eq
    have right := (panes .fragment).length_eq
    have hinted := below.length_eq
    rw [List.length_append, List.length_zipWith, left, right, hinted]
    simp only [paneSize] at above ⊢
    omega
  · intro row member
    rw [List.mem_append, List.mem_iff_getElem?] at member
    obtain ⟨index, found⟩ | member := member
    · obtain ⟨left, right, isLeft, isRight, rfl⟩ := List.getElem?_zipWith_eq_some.1 found
      rw [Row.width_append, (panes .vertex).width_eq left (List.mem_of_getElem? isLeft),
        (panes .fragment).width_eq right (List.mem_of_getElem? isRight)]
      exact paneWidth_add size
    · exact below.width_eq row member

end

/-! ## Borders -/

section

variable {width : Nat} {left right : Cell Hue} {row : Row Hue}

theorem between_enclose {middle : Nat → Row Hue}
    (whole : ∀ inner, Row.width (middle inner) = inner) :
    Between width left right (enclose width left middle right) := by
  match width with
  | 0 => rfl
  | 1 => rfl
  | inner + 2 => exact ⟨middle inner, rfl, whole inner⟩

theorem Between.width_eq (between : Between width left right row) (leftSingle : left.width = 1)
    (rightSingle : right.width = 1) : Row.width row = width := by
  unfold Between at between
  split at between
  · rw [between]
    rfl
  · rw [between, Row.width_cons, Row.width_nil, leftSingle]
  · obtain ⟨middle, rfl, whole⟩ := between
    rw [Row.width_append, Row.width_cons, Row.width_cons, Row.width_nil, leftSingle, rightSingle,
      whole]
    omega

variable (border : Style Hue)

theorem width_edges (height index : Nat) :
    (Cell.mk (edges height index).1 border).width = 1 ∧
      (Cell.mk (edges height index).2 border).width = 1 := by
  unfold edges Cell.width
  dsimp only
  split
  · decide +kernel
  · split
    · decide +kernel
    · decide +kernel

theorem width_border : (Cell.mk '─' border).width = 1 := by
  change charWidth '─' = 1
  decide +kernel

theorem between_topBorder (heading : Text) :
    Between width ⟨'┌', border⟩ ⟨'┐', border⟩ (topBorder border width heading) :=
  between_enclose fun inner => Row.width_exactly (width_border border) inner _

theorem between_bottomBorder :
    Between width ⟨'└', border⟩ ⟨'┘', border⟩ (bottomBorder border width) :=
  between_enclose fun inner => Row.width_replicate (width_border border) inner

theorem between_innerRow (blank : Style Hue) (line : List (Span Hue)) :
    Between width ⟨'│', border⟩ ⟨'│', border⟩ (innerRow border blank width line) :=
  between_enclose fun inner => width_lineRow blank inner line

end

/-! ## One pane -/

theorem length_firstLines {α : Type} (count : Nat) (lines : List (List α)) :
    (firstLines count lines).length = count := by
  rw [firstLines, List.length_append, List.length_replicate, List.length_take]
  omega

variable (palette : Palette Hue) (viewer : Viewer)

section

variable (side : Side) (size : Size)

theorem length_paneRows : (paneRows palette viewer side size).length = size.height := by
  obtain ⟨width, height⟩ := size
  match height with
  | 0 => rfl
  | 1 => rfl
  | inner + 2 => simp [paneRows, length_firstLines]

theorem getElem?_paneRows_last {width inner : Nat} :
    (paneRows palette viewer side ⟨width, inner + 2⟩)[inner + 1]? =
      some (bottomBorder (palette.borderStyle (side = viewer.focused)) width) := by
  simp only [paneRows, List.cons_append, List.getElem?_cons_succ]
  rw [List.getElem?_append_right (by rw [List.length_map, length_firstLines]), List.length_map,
    length_firstLines, Nat.sub_self, List.getElem?_cons_zero]

/-- The first row is the top border, the last one the bottom border, and those between them show
lines. -/
theorem bordered_paneRows (index : Nat) (row : Row Hue)
    (found : (paneRows palette viewer side size)[index]? = some row) :
    Between size.width
      ⟨(edges size.height index).1, palette.borderStyle (side = viewer.focused)⟩
      ⟨(edges size.height index).2, palette.borderStyle (side = viewer.focused)⟩ row := by
  have inside : index < size.height := by
    rw [← length_paneRows palette viewer side size]
    exact (List.getElem?_eq_some_iff.1 found).1
  obtain ⟨width, height⟩ := size
  match height, index with
  | 1, 0 =>
      obtain rfl : _ = row := Option.some.inj found
      exact between_topBorder _ _
  | inner + 2, 0 =>
      obtain rfl : _ = row := Option.some.inj found
      exact between_topBorder _ _
  | inner + 2, index + 1 =>
      dsimp only at inside ⊢
      obtain last | earlier : index = inner ∨ index < inner := by omega
      · subst last
        rw [getElem?_paneRows_last, Option.some.injEq] at found
        subst found
        rw [edges, if_neg (by omega), if_pos rfl]
        exact between_bottomBorder _
      · rw [getElem?_paneRows_succ palette viewer earlier, Option.some.injEq] at found
        subst found
        rw [edges, if_neg (by omega), if_neg (by omega)]
        exact between_innerRow _ _ _

theorem isPane_paneRows :
    IsPane (palette.borderStyle (side = viewer.focused)) palette.paneStyle
      (visible palette viewer.settings.tabWidth.toNat (viewer.pane side)) size
      (paneRows palette viewer side size) := by
  have bordered := bordered_paneRows palette viewer side size
  refine ⟨⟨length_paneRows palette viewer side size, ?_⟩, bordered, ?_⟩
  · intro row member
    obtain ⟨index, found⟩ := List.mem_iff_getElem?.1 member
    have single := width_edges (palette.borderStyle (side = viewer.focused)) size.height index
    exact (bordered index row found).width_eq single.1 single.2
  · intro index middle inside found
    obtain ⟨width, height⟩ := size
    dsimp only at inside ⊢
    obtain ⟨inner, rfl⟩ := Nat.exists_eq_add_of_le' (show 2 ≤ height by omega)
    rw [getElem?_paneRows_succ palette viewer (by omega), Option.some.injEq] at found
    -- A row with both borders tells that there are columns for them.
    have room : 2 ≤ width := by
      have := congrArg Row.width found
      rw [width_innerRow, Row.width_append, Row.width_cons, Row.width_cons, width_edge] at this
      omega
    rw [innerRow_of_le _ _ room] at found
    obtain rfl := List.append_cancel_right (List.cons.inj found).2
    exact Row.isCut_exactly _ _ _

end

/-! ## The whole screen -/

/-- The row of hints, where there is one. -/
def hintRows (palette : Palette Hue) (size : Size) : List (Row Hue) :=
  if size.height < 2 then [] else [hintRow palette size.width]

theorem panes_eq (size : Size) :
    panes palette viewer size =
      List.zipWith (· ++ ·)
        (paneRows palette viewer .vertex ⟨paneWidth size .vertex, size.height⟩)
        (paneRows palette viewer .fragment ⟨paneWidth size .fragment, size.height⟩) := by
  have half : size.width - (size.width + 1) / 2 = size.width / 2 := by omega
  rw [panes, vertexWidth, half]
  rfl

theorem width_hintRow (width : Nat) : Row.width (hintRow palette width) = width := by
  have single : (Cell.mk ' ' palette.paneStyle).width = 1 := charWidth_space
  exact Row.width_exactly single width _

theorem composed_draw (size : Size) :
    Composed size (fun side => paneRows palette viewer side (paneSize size side))
      (hintRows palette size) (draw palette viewer size) := by
  refine ⟨?_, fun side => (isPane_paneRows palette viewer side _).fills, ?_⟩
  · unfold draw hintRows paneSize
    rw [panes_eq, panes_eq]
    split
    · rw [List.append_nil]
    · rfl
  · unfold hintRows paneSize
    dsimp only
    split
    · exact ⟨(Nat.sub_self _).symm, by simp⟩
    · refine ⟨by simp only [List.length_singleton]; omega, ?_⟩
      simpa using width_hintRow palette size.width

end Screen

/-! ## Every screen -/

/-- **A screen is an exact grid of columns and rows.** Whatever a viewer shows and however large the
terminal is, there are as many rows as it has, each as wide as it is. The runs of a row are not
empty, neighbours differ in style, and they give every column the style of the character that covers
it. The screen is composed of the two panes, the vertex pane in the first half of the columns with
the odd one, and of the hints below, so no character covers columns of both panes, nor one of a
border and one inside it. Between its borders a pane shows consecutive display lines, beginning with
one that exists, each cut at the inner width. -/
theorem screen_is_exact_grid [DecidableEq Hue] (vertex fragment : Shader) (settings : ViewSettings)
    (actions : List Action) (palette : Palette Hue) (size : Size) :
    let viewer := (Viewer.start vertex fragment settings).run actions
    let screen := Screen.draw palette viewer size
    screen.length = size.height ∧
    (∀ row ∈ screen, Row.width row = size.width ∧
      Row.IsRuns (Row.columnStyles row) (Row.runs row) ∧
      Row.runsWidth (Row.runs row) = size.width) ∧
    ∃ rows hints, Screen.Composed size rows hints screen ∧
      ∀ side,
        let pane := viewer.pane side
        let lines := Display.lines palette settings.tabWidth.toNat pane.shader.text.tokens
        let first := min pane.scroll.toNat 65535
        first < lines.length ∧
        Screen.IsPane (palette.borderStyle (side = viewer.focused)) palette.paneStyle
          (lines.drop first) (Screen.paneSize size side) (rows side) := by
  intro viewer screen
  have composed := Screen.composed_draw palette viewer size
  have fills := composed.fills
  refine ⟨fills.length_eq, ?_, _, _, composed, ?_⟩
  · intro row member
    have whole := fills.width_eq row member
    exact ⟨whole, Row.isRuns_runs row, by rw [Row.runsWidth_runs, whole]⟩
  · intro side pane lines first
    have here : pane.OnLine := Viewer.onLine_run_start vertex fragment settings actions side
    have count : lines.length = pane.lineCount := pane.length_lines palette _
    have same : viewer.settings = settings := Viewer.settings_run _ actions
    have shown := Screen.isPane_paneRows palette viewer side (Screen.paneSize size side)
    rw [same] at shown
    exact ⟨count ▸ Nat.lt_of_le_of_lt (Nat.min_le_left _ _) here, shown⟩

/-- A row that begins with a character too wide for the room has nothing else in its cut. -/
theorem Row.IsCut.eq_blank {room : Nat} {blank cell : Cell Hue} {rest cut : Row Hue}
    (isCut : Row.IsCut room blank (cell :: rest) cut) (wide : room < cell.width) :
    cut = List.replicate room blank := by
  obtain ⟨front, isFront, fits, _, rfl⟩ := isCut
  cases front with
  | nil => rfl
  | cons first front =>
      obtain ⟨rfl, _⟩ := List.cons_prefix_cons.1 isFront
      rw [Row.width_cons] at fits
      omega

/-- A pane with a single column inside passes over a character of two columns and shows the next
one. The longest front of the line that fits would be empty. -/
theorem narrow_pane_passes_over_wide_character :
    let text : Text := ['日', 'x']
    let viewer := Viewer.start ⟨text, "file:a".toList⟩ ⟨['y'], "file:b".toList⟩ {}
    (∀ c ∈ text ++ ['y'] ++ "file:a".toList ++ "file:b".toList, charWidth c = 1 ∨ charWidth c = 2) ∧
    ∃ middle, Screen.InnerRow (Screen.draw .midnight viewer ⟨5, 4⟩) ⟨5, 4⟩ .vertex
        ⟨'│', Palette.midnight.borderStyle true⟩ 0 middle ∧
      ∀ line ∈ Display.lines .midnight 2 text.tokens,
        ¬ Row.IsCut 1 ⟨' ', Palette.midnight.paneStyle⟩ (Screen.cells line) middle := by
  intro text viewer
  let shown : List Span :=
    [⟨['日'], Palette.midnight.styleOf .unknown⟩, ⟨['x'], Palette.midnight.styleOf .identifier⟩]
  have lines : Display.lines .midnight 2 text.tokens = [shown] := by decide +kernel
  have rows : 0 < Screen.innerHeight ⟨5, 4⟩ := by decide
  have room : 2 ≤ Screen.paneWidth ⟨5, 4⟩ .vertex := by decide
  have drawn := Screen.innerRow_draw .midnight viewer rows room
  have widths : (text ++ ['y'] ++ "file:a".toList ++ "file:b".toList).all
      (fun c => charWidth c = 1 ∨ charWidth c = 2) := by decide +kernel
  refine ⟨fun c member => of_decide_eq_true (List.all_eq_true.1 widths c member), _, drawn, ?_⟩
  intro line member isCut
  rw [lines, List.mem_singleton] at member
  subst member
  have blank := isCut.eq_blank (by decide +kernel)
  have first : Screen.lineAt .midnight viewer .vertex 0 = shown := by
    change ((Display.lines .midnight 2 text.tokens).drop 0).getD 0 [] = shown
    rw [lines]
    rfl
  rw [first] at blank
  revert blank
  decide +kernel

end ShaderLens
