import ShaderLens.Proofs.Viewer.Row
import ShaderLens.Proofs.Viewer.Scroll
import ShaderLens.Viewer.Screen

/-!
# The window of a pane

Between its borders a pane shows one display line in each row, from the line that it is scrolled to
on (`Screen.shows_line`). Drawing cannot start farther down than at line `Screen.offsetLimit`. Up to
there the line that a pane is scrolled to is always in its first row. Past it the window stays where
it is while the scroll position goes on, and the end of a long text is out of reach.
-/

namespace ShaderLens

variable {Hue : Type}

namespace Screen

/-- The columns of a pane. The vertex pane has the odd one. -/
def paneWidth (size : Size) : Side → Nat
  | .vertex => (size.width + 1) / 2
  | .fragment => size.width / 2

/-- The columns at the left of a pane. -/
def paneColumn (size : Size) : Side → Nat
  | .vertex => 0
  | .fragment => (size.width + 1) / 2

/-- The rows of a pane between its borders. The hints have a row too. -/
def innerHeight (size : Size) : Nat :=
  size.height - 3

/-- What a screen has in a row of a pane between its borders. -/
def InnerRow (screen : List (Row Hue)) (size : Size) (side : Side) (edge : Cell Hue) (index : Nat)
    (inner : Row Hue) : Prop :=
  ∃ front back, screen[index + 1]? = some (front ++ (edge :: inner ++ edge :: back)) ∧
    Row.width front = paneColumn size side ∧ Row.width inner + 2 = paneWidth size side

/-- In a row of a pane stands the display line with a given number, cut at the width of the pane.
Characters that are wider than the whole pane have no part in it. -/
def Shows (palette : Palette Hue) (viewer : Viewer) (size : Size) (side : Side)
    (index number : Nat) : Prop :=
  let text := (viewer.pane side).shader.text
  let room := paneWidth size side - 2
  ∃ line inner,
    (Display.lines palette viewer.settings.tabWidth.toNat text.tokens)[number]? = some line ∧
    InnerRow (draw palette viewer size) size side
      ⟨'│', palette.borderStyle (side = viewer.focused)⟩ index inner ∧
    Row.IsCut room ⟨' ', palette.paneStyle⟩ (Row.showable room (cells line)) inner

section

variable (border blank : Style Hue)

theorem width_edge (style : Style Hue) : (Cell.mk '│' style).width = 1 := by
  change charWidth '│' = 1
  decide +kernel

theorem width_lineRow (inner : Nat) (line : List (Span Hue)) :
    Row.width (lineRow blank inner line) = inner := by
  have single : (Cell.mk ' ' blank).width = 1 := charWidth_space
  exact Row.width_exactly single inner _

theorem innerRow_of_le {width : Nat} (room : 2 ≤ width) (line : List (Span Hue)) :
    innerRow border blank width line =
      ⟨'│', border⟩ :: lineRow blank (width - 2) line ++ [⟨'│', border⟩] := by
  obtain ⟨inner, rfl⟩ := Nat.exists_eq_add_of_le' room
  rfl

theorem width_innerRow (width : Nat) (line : List (Span Hue)) :
    Row.width (innerRow border blank width line) = width := by
  by_cases room : 2 ≤ width
  · rw [innerRow_of_le border blank room, Row.width_append, Row.width_cons, Row.width_cons,
      Row.width_nil, width_lineRow, width_edge]
    omega
  · obtain rfl | rfl : width = 0 ∨ width = 1 := by omega
    · rfl
    · change Row.width [⟨'│', border⟩] = 1
      rw [Row.width_cons, Row.width_nil, width_edge]

theorem getElem?_firstLines {α : Type} {count index : Nat} (inside : index < count)
    (lines : List (List α)) : (firstLines count lines)[index]? = some (lines.getD index []) := by
  rw [firstLines, List.getD_eq_getElem?_getD]
  by_cases present : index < lines.length
  · rw [List.getElem?_append_left (by rw [List.length_take]; omega),
      List.getElem?_take_of_lt inside, List.getElem?_eq_getElem present, Option.getD_some]
  · rw [List.getElem?_append_right (by rw [List.length_take]; omega), List.getElem?_replicate,
      if_pos (by rw [List.length_take]; omega), List.getElem?_eq_none (by omega), Option.getD_none]

end

section

variable (palette : Palette Hue) (viewer : Viewer) (size : Size) (side : Side) (index : Nat)

/-- The display line for a row of a pane, if there is one so far down. -/
def lineAt : List (Span Hue) :=
  (visible palette viewer.settings.tabWidth.toNat (viewer.pane side)).getD index []

/-- A row of a pane, with its borders. -/
def rowAt : Row Hue :=
  innerRow (palette.borderStyle (side = viewer.focused)) palette.paneStyle (paneWidth size side)
    (lineAt palette viewer side index)

end

variable (palette : Palette Hue) (viewer : Viewer) {size : Size} {side : Side} {index : Nat}

theorem getElem?_paneRows_succ {width inner : Nat} (inside : index < inner) :
    (paneRows palette viewer side ⟨width, inner + 2⟩)[index + 1]? =
      some (innerRow (palette.borderStyle (side = viewer.focused)) palette.paneStyle width
        (lineAt palette viewer side index)) := by
  have line := getElem?_firstLines inside
    (visible palette viewer.settings.tabWidth.toNat (viewer.pane side))
  have present := (List.getElem?_eq_some_iff.1 line).1
  simp only [paneRows, List.cons_append, List.getElem?_cons_succ]
  rw [List.getElem?_append_left (by rwa [List.length_map]), List.getElem?_map, line,
    Option.map_some]
  rfl

theorem getElem?_paneRows {height : Nat} (inside : index + 2 < height) :
    (paneRows palette viewer side ⟨paneWidth size side, height⟩)[index + 1]? =
      some (rowAt palette viewer size side index) := by
  obtain ⟨inner, rfl⟩ := Nat.exists_eq_add_of_le' (show 2 ≤ height by omega)
  exact getElem?_paneRows_succ palette viewer (by omega)

/-- The panes stand side by side on a screen. -/
theorem getElem?_draw (inside : index < innerHeight size) :
    (draw palette viewer size)[index + 1]? =
      some (rowAt palette viewer size .vertex index ++
        rowAt palette viewer size .fragment index) := by
  have high : index + 2 < size.height - 1 := by
    rw [innerHeight] at inside
    omega
  have half : size.width - (size.width + 1) / 2 = size.width / 2 := by omega
  have own (side : Side) :
      (paneRows palette viewer side ⟨paneWidth size side, size.height - 1⟩)[index + 1]? =
        some (rowAt palette viewer size side index) :=
    getElem?_paneRows palette viewer high
  have both : (panes palette viewer ⟨size.width, size.height - 1⟩)[index + 1]? =
      some (rowAt palette viewer size .vertex index ++
        rowAt palette viewer size .fragment index) := by
    rw [panes, vertexWidth, half]
    exact List.getElem?_zipWith_eq_some.2 ⟨_, _, own .vertex, own .fragment, rfl⟩
  rw [draw, if_neg (by omega), List.getElem?_append_left (List.getElem?_eq_some_iff.1 both).1, both]

theorem innerRow_draw (inside : index < innerHeight size) (room : 2 ≤ paneWidth size side) :
    InnerRow (draw palette viewer size) size side
      ⟨'│', palette.borderStyle (side = viewer.focused)⟩ index
      (lineRow palette.paneStyle (paneWidth size side - 2) (lineAt palette viewer side index)) := by
  have drawn := getElem?_draw palette viewer inside
  have whole : Row.width (lineRow palette.paneStyle (paneWidth size side - 2)
      (lineAt palette viewer side index)) + 2 = paneWidth size side := by
    rw [width_lineRow]
    omega
  cases side with
  | vertex =>
      refine ⟨[], rowAt palette viewer size .fragment index, ?_, rfl, whole⟩
      rw [drawn, rowAt, innerRow_of_le _ _ room]
      simp
  | fragment =>
      refine ⟨rowAt palette viewer size .vertex index, [], ?_, width_innerRow _ _ _ _, whole⟩
      rw [drawn, rowAt, rowAt, innerRow_of_le _ _ room]

/-- Each row shows the line that is as far below the first one as the row is. -/
theorem shows_line (inside : index < innerHeight size) (room : 2 ≤ paneWidth size side)
    (there : min (viewer.pane side).scroll.toNat offsetLimit + index <
      (viewer.pane side).lineCount) :
    Shows palette viewer size side index
      (min (viewer.pane side).scroll.toNat offsetLimit + index) := by
  have line := List.getElem?_eq_getElem (l := Display.lines palette
    viewer.settings.tabWidth.toNat (viewer.pane side).shader.text.tokens)
    (by rwa [Pane.length_lines])
  have drawn := innerRow_draw palette viewer inside room
  rw [lineAt, visible, List.getD_eq_getElem?_getD, List.getElem?_drop, line,
    Option.getD_some] at drawn
  exact ⟨_, _, line, drawn, Row.isCut_exactly _ _ _⟩

end Screen

theorem Pane.toNat_scroll_toBottom {pane : Pane} (countable : pane.lineCount ≤ 2 ^ 64) :
    pane.toBottom.scroll.toNat = pane.lineCount - 1 :=
  toNat_lastLine countable

/-- The last line of a text stands in the window after going to the bottom, as long as drawing from
the farthest line leaves a row for it. -/
theorem Screen.shows_last_line (palette : Palette Hue) {viewer : Viewer} {size : Size}
    (room : 2 ≤ paneWidth size viewer.focused) (terminal : size.height ≤ 65535)
    (within : (viewer.pane viewer.focused).lineCount ≤ offsetLimit + innerHeight size)
    (rows : 0 < innerHeight size) :
    ∃ index < innerHeight size,
      Shows palette (viewer.perform .bottom) size viewer.focused index
        ((viewer.pane viewer.focused).lineCount - 1) := by
  let pane := viewer.pane viewer.focused
  have positive : 0 < pane.lineCount := pane.lineCount_pos
  have within : pane.lineCount ≤ offsetLimit + innerHeight size := within
  have few : pane.lineCount ≤ 2 ^ 64 := by
    rw [offsetLimit, innerHeight] at within
    exact Nat.le_trans within (by omega)
  have moved : (viewer.perform .bottom).pane viewer.focused = pane.toBottom := by
    rw [Viewer.pane_perform, if_pos rfl]
    rfl
  have scroll :
      ((viewer.perform .bottom).pane viewer.focused).scroll.toNat = pane.lineCount - 1 := by
    rw [moved, Pane.toNat_scroll_toBottom few]
  have count : ((viewer.perform .bottom).pane viewer.focused).lineCount = pane.lineCount := by
    rw [moved]
    rfl
  let index := pane.lineCount - 1 - min (pane.lineCount - 1) offsetLimit
  have last : min (pane.lineCount - 1) offsetLimit + index = pane.lineCount - 1 := by omega
  have inside : index < innerHeight size := by omega
  have shown := shows_line palette (viewer.perform .bottom) inside room
    (by rw [scroll, count, last]; omega)
  rw [scroll, last] at shown
  exact ⟨index, inside, shown⟩

/-! ## Beyond the farthest line -/

namespace Display

theorem eq_nil_of_plain {palette : Palette Hue} {tabWidth : Nat} {tokens : List Token}
    {line : List (Span Hue)} (member : line ∈ lines palette tabWidth tokens)
    (nothing : plain line = []) :
    line = [] := by
  obtain ⟨pieces, _, rfl⟩ := List.mem_map.1 member
  apply List.eq_nil_iff_forall_not_mem.2
  intro span inside
  exact content_ne_nil_of_mem_spans inside (List.flatMap_eq_nil_iff.1 nothing span inside)

/-- What is shown of a line depends on the characters of that line only. -/
theorem plain_of_getElem? {palette : Palette Hue} {tabWidth number : Nat} {text : Text}
    {line : List (Span Hue)} (found : (lines palette tabWidth text.tokens)[number]? = some line) :
    (text.splitOn '\n')[number]?.map (TabStop.expand (max tabWidth 1) 0) = some (plain line) := by
  have plains := map_plain_lines palette tabWidth text.tokens
  rw [Text.join_tokens] at plains
  rw [← List.getElem?_map, ← plains, List.getElem?_map, found, Option.map_some]

end Display

/-- A text of empty lines but for the last one. -/
def Text.farEnd (feeds : Nat) : Text :=
  List.replicate feeds '\n' ++ ['x']

namespace Text

variable {palette : Palette Hue} {tabWidth feeds : Nat} {line : List (Span Hue)}

theorem splitOn_farEnd (feeds : Nat) :
    (farEnd feeds).splitOn '\n' = List.replicate feeds [] ++ [['x']] := by
  rw [List.splitOn_eq_splitOnP]
  induction feeds with
  | zero => rfl
  | succ feeds ih =>
      change List.splitOnP _ ('\n' :: farEnd feeds) = _
      rw [List.splitOnP_cons_eq_if_modifyHead, ih]
      rfl

theorem lineCount_farEnd (feeds : Nat) : (farEnd feeds).lineCount = feeds + 1 := by
  rw [lineCount, lines_eq_splitOn, splitOn_farEnd]
  simp

theorem line_farEnd {number : Nat} (above : number < feeds)
    (found : (Display.lines palette tabWidth (farEnd feeds).tokens)[number]? = some line) :
    line = [] := by
  have plain := Display.plain_of_getElem? found
  rw [splitOn_farEnd, List.getElem?_append_left (by simpa using above), List.getElem?_replicate,
    if_pos above] at plain
  apply Display.eq_nil_of_plain (List.mem_of_getElem? found)
  simpa [TabStop.expand] using plain.symm

theorem plain_last_farEnd
    (found : (Display.lines palette tabWidth (farEnd feeds).tokens)[feeds]? = some line) :
    Display.plain line = ['x'] := by
  have plain := Display.plain_of_getElem? found
  rw [splitOn_farEnd, List.getElem?_append_right (by simp)] at plain
  simpa [TabStop.expand, TabStop.shown, isControl] using plain.symm

end Text

namespace Screen

theorem map_char_cells (line : List (Span Hue)) :
    (cells line).map Cell.char = Display.plain line := by
  simp [cells, Row.ofText, Display.plain, List.map_flatMap, Function.comp_def]

/-- Of a line that has room for its first character, this character is on the screen. -/
theorem Shows.exists_cell {palette : Palette Hue} {viewer : Viewer} {size : Size} {side : Side}
    {index number : Nat} {row : Row Hue} {c : Char} {rest : Text}
    (shows : Shows palette viewer size side index number)
    (drawn : (draw palette viewer size)[index + 1]? = some row)
    (begins : ∀ line, (Display.lines palette viewer.settings.tabWidth.toNat
      (viewer.pane side).shader.text.tokens)[number]? = some line → Display.plain line = c :: rest)
    (narrow : charWidth c ≤ paneWidth size side - 2) : ∃ cell ∈ row, cell.char = c := by
  obtain ⟨line, inner, found, ⟨front, back, at_row, _, _⟩, isCut⟩ := shows
  have chars := begins line found
  rw [← map_char_cells] at chars
  obtain ⟨cell, later, same, rfl, _⟩ := List.map_eq_cons_iff.1 chars
  have narrow : cell.width ≤ paneWidth size side - 2 := narrow
  rw [same, Row.showable, List.filter_cons_of_pos (by simpa using narrow)] at isCut
  refine ⟨cell, ?_, rfl⟩
  rw [← Option.some.inj (at_row.symm.trans drawn), List.mem_append, List.mem_append]
  exact .inr (.inl (List.mem_cons_of_mem _ (isCut.head_mem narrow)))

/-- A row for no line has nothing but borders and blanks. -/
theorem char_of_mem_innerRow_nil {border blank : Style Hue} {width : Nat} {cell : Cell Hue}
    (member : cell ∈ innerRow border blank width []) : cell.char = '│' ∨ cell.char = ' ' := by
  unfold innerRow enclose at member
  split at member
  · cases member
  · left
    rw [List.mem_singleton.1 member]
  · simp only [lineRow, cells, List.flatMap_nil, Row.showable, List.filter_nil, Row.exactly,
      Row.fit, List.nil_append, List.mem_append, List.mem_cons, List.mem_replicate,
      List.not_mem_nil, or_false] at member
    obtain (rfl | ⟨_, rfl⟩) | rfl := member
    · exact .inl rfl
    · exact .inr rfl
    · exact .inl rfl

theorem lineAt_nil {palette : Palette Hue} {viewer : Viewer} {side : Side} (index : Nat)
    (text : (viewer.pane side).shader.text = []) : lineAt palette viewer side index = [] := by
  have single : Display.lines palette viewer.settings.tabWidth.toNat (Text.tokens []) = [[]] := by
    simp [Display.lines, Token.lines, Display.spans]
  rw [lineAt, visible, text, single, List.getD_eq_getElem?_getD, List.getElem?_drop]
  cases min (viewer.pane side).scroll.toNat offsetLimit + index with
  | zero => rfl
  | succ _ => rfl

theorem lineAt_farEnd {palette : Palette Hue} {viewer : Viewer} {side : Side} {feeds : Nat}
    (text : (viewer.pane side).shader.text = Text.farEnd feeds) (far : offsetLimit < feeds)
    (scroll : (viewer.pane side).scroll.toNat = feeds) : lineAt palette viewer side 0 = [] := by
  have start : min (viewer.pane side).scroll.toNat offsetLimit = offsetLimit := by omega
  rw [lineAt, visible, start, text, List.getD_eq_getElem?_getD, List.getElem?_drop]
  cases found : (Display.lines palette viewer.settings.tabWidth.toNat
      (Text.farEnd feeds).tokens)[offsetLimit + 0]? with
  | none => rfl
  | some line => exact Text.line_farEnd far found

/-- Going to the bottom of a text that ends past the farthest line shows a line in front of its
end. -/
theorem not_shows_farEnd (palette : Palette Hue) {size : Size} {feeds : Nat}
    (far : offsetLimit < feeds) (countable : feeds < 2 ^ 64) (rows : 0 < innerHeight size)
    (columns : 2 < paneWidth size .vertex) :
    let viewer := (Viewer.start ⟨Text.farEnd feeds, []⟩ ⟨[], []⟩ {}).run [.bottom]
    (viewer.pane .vertex).scroll.toNat = feeds ∧
    ¬ Shows palette viewer size .vertex 0 feeds := by
  intro viewer
  have count : (Pane.mk ⟨Text.farEnd feeds, []⟩ 0).lineCount = feeds + 1 :=
    Text.lineCount_farEnd feeds
  have scroll : (viewer.pane .vertex).scroll.toNat = feeds := by
    change (Pane.mk ⟨Text.farEnd feeds, []⟩ 0).toBottom.scroll.toNat = feeds
    rw [Pane.toNat_scroll_toBottom (by omega), count, Nat.add_sub_cancel]
  have upper : lineAt palette viewer .vertex 0 = [] := lineAt_farEnd rfl far scroll
  have other : lineAt palette viewer .fragment 0 = [] := lineAt_nil 0 rfl
  have narrow : charWidth 'x' ≤ paneWidth size .vertex - 2 := by
    have single : charWidth 'x' = 1 := by decide +kernel
    omega
  refine ⟨scroll, ?_⟩
  -- The screen would have an `x` in this row, but both panes are blank there.
  intro shows
  obtain ⟨cell, member, char⟩ := shows.exists_cell (getElem?_draw palette viewer rows)
    (fun _ => Text.plain_last_farEnd) narrow
  rw [rowAt, rowAt, upper, other, List.mem_append] at member
  have plain : cell.char = '│' ∨ cell.char = ' ' := by
    obtain left | right := member
    · exact char_of_mem_innerRow_nil left
    · exact char_of_mem_innerRow_nil right
  rw [char] at plain
  revert plain
  decide

end Screen

/-! ## The first row -/

/-- **The first row shows the line that a pane is scrolled to,** up to the farthest line that
drawing can start from. For every state of a viewer and every screen on which a pane has room
inside, there is such a line, cut at the width of the pane. After going to the bottom the last line
of the text is on the screen, unless it lies farther below that farthest line than the pane has
rows. -/
theorem first_row_shows_scroll (vertex fragment : Shader) (settings : ViewSettings)
    (actions : List Action) (palette : Palette Hue) (size : Size) (side : Side)
    (rows : 0 < Screen.innerHeight size) (columns : 2 < Screen.paneWidth size side) :
    let viewer := (Viewer.start vertex fragment settings).run actions
    let pane := viewer.pane side
    Screen.Shows palette viewer size side 0 (min pane.scroll.toNat 65535) ∧
    (viewer.focused = side → size.height ≤ 65535 →
      pane.lineCount ≤ 65535 + Screen.innerHeight size →
      ∃ index < Screen.innerHeight size,
        Screen.Shows palette (viewer.perform .bottom) size side index (pane.lineCount - 1)) := by
  intro viewer pane
  have here : pane.OnLine := Viewer.onLine_run_start vertex fragment settings actions side
  have room : 2 ≤ Screen.paneWidth size side := Nat.le_of_lt columns
  constructor
  · have there : min pane.scroll.toNat Screen.offsetLimit + 0 < pane.lineCount :=
      Nat.lt_of_le_of_lt (Nat.min_le_left _ _) here
    exact Screen.shows_line palette viewer rows room there
  · intro focus terminal within
    subst focus
    exact Screen.shows_last_line palette room terminal within rows

/-- A pane at the second of three lines, in a window of one row. -/
theorem first_row_shows_second_line :
    0 < Screen.innerHeight ⟨6, 4⟩ ∧ 2 < Screen.paneWidth ⟨6, 4⟩ .fragment ∧
    let viewer := (Viewer.start ⟨[], []⟩ ⟨"a\nb\nc".toList, []⟩ {}).run
      [.switchFocus, .bottom, .scrollUp]
    Screen.Shows .midnight viewer ⟨6, 4⟩ .fragment 0 1 ∧
    ∃ index < Screen.innerHeight ⟨6, 4⟩,
      Screen.Shows .midnight (viewer.perform .bottom) ⟨6, 4⟩ .fragment index 2 := by
  have rows : 0 < Screen.innerHeight ⟨6, 4⟩ := by decide
  have columns : 2 < Screen.paneWidth ⟨6, 4⟩ .fragment := by decide
  obtain ⟨first, last⟩ := first_row_shows_scroll ⟨[], []⟩ ⟨"a\nb\nc".toList, []⟩ {}
    [.switchFocus, .bottom, .scrollUp] .midnight ⟨6, 4⟩ .fragment rows columns
  exact ⟨rows, columns, first, last rfl (by decide) (by decide)⟩

/-- In a text of 65537 lines the bottom is one line below the farthest line for a first row, and a
window of one row does not reach it. -/
theorem bottom_out_of_reach :
    let viewer := (Viewer.start ⟨List.replicate 65536 '\n' ++ ['x'], []⟩ ⟨[], []⟩ {}).run [.bottom]
    0 < Screen.innerHeight ⟨10, 4⟩ ∧ 2 < Screen.paneWidth ⟨10, 4⟩ .vertex ∧
    (viewer.pane .vertex).scroll.toNat = 65536 ∧ (viewer.pane .vertex).lineCount - 1 = 65536 ∧
    ∀ index < Screen.innerHeight ⟨10, 4⟩,
      ¬ Screen.Shows .midnight viewer ⟨10, 4⟩ .vertex index 65536 := by
  intro viewer
  have single : Screen.innerHeight ⟨10, 4⟩ = 1 := by decide
  have rows : 0 < Screen.innerHeight ⟨10, 4⟩ := by decide
  have columns : 2 < Screen.paneWidth ⟨10, 4⟩ .vertex := by decide
  have far : Screen.offsetLimit < 65536 := by decide
  obtain ⟨scroll, hidden⟩ := Screen.not_shows_farEnd .midnight far (by decide) rows columns
  have count : (viewer.pane .vertex).lineCount = 65536 + 1 := Text.lineCount_farEnd 65536
  refine ⟨rows, columns, scroll, by rw [count], ?_⟩
  intro index inside
  obtain rfl : index = 0 := by omega
  exact hidden

end ShaderLens
