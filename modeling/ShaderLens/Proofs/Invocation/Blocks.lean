import ShaderLens.Invocation.Arguments
import ShaderLens.Proofs.Text.Counting

/-!
# Blocks of a command line

A command line with nothing wrong in it and without a call for help is made of blocks: words, and
options with the values that they take (`Block`). Reading block after block
(`Item.ofArguments_line`) leaves the words in their order, and settings for which of several options
of one kind the last one counts (`Settings.after`). So options can stand anywhere among the words
(`options_stand_anywhere`).
-/

namespace ShaderLens

/-- A word is neither a call for help nor an option. An option takes the argument behind it as its
value, whatever that looks like. -/
inductive Block
  | word (text : Text) (noCall : text ≠ "-h".toList) (noOption : ¬ "--".toList <+: text)
  | tabWidth (value : Text) (columns : UInt64) (denotes : Count.Denotes value columns)
  | classPrefix (value : Text)
  | noTrailingNewline

namespace Block

def arguments : Block → List Text
  | word text _ _ => [text]
  | tabWidth value _ _ => ["--tab-width".toList, value]
  | classPrefix value => ["--class-prefix".toList, value]
  | noTrailingNewline => ["--no-trailing-newline".toList]

theorem length_arguments_pos (block : Block) : 0 < block.arguments.length := by
  cases block <;> exact Nat.succ_pos _

/-- The command line that is made of the given blocks. -/
def line (blocks : List Block) : List Text :=
  blocks.flatMap arguments

def word? : Block → Option Text
  | word text _ _ => some text
  | tabWidth _ _ _ | classPrefix _ | noTrailingNewline => none

def tabWidth? : Block → Option UInt64
  | tabWidth _ columns _ => some columns
  | word _ _ _ | classPrefix _ | noTrailingNewline => none

def classPrefix? : Block → Option Text
  | classPrefix value => some value
  | word _ _ _ | tabWidth _ _ _ | noTrailingNewline => none

def isNoTrailingNewline : Block → Bool
  | noTrailingNewline => true
  | word _ _ _ | tabWidth _ _ _ | classPrefix _ => false

/-- The words among the blocks. -/
def words (blocks : List Block) : List Text :=
  blocks.filterMap word?

theorem words_cons (block : Block) (later : List Block) :
    words (block :: later) = block.word?.toList ++ words later := by
  cases block <;> rfl

/-- The item that a block is read as. -/
def item : Block → Item
  | word text _ _ => .word text
  | tabWidth _ columns _ => .tabWidth columns
  | classPrefix value => .classPrefix value
  | noTrailingNewline => .noTrailingNewline

end Block

/-- The settings that the options among the blocks leave: the last of each kind counts. -/
def Settings.after (settings : Settings) (blocks : List Block) : Settings where
  markup := {
    classPrefix := (blocks.filterMap Block.classPrefix?).getLastD settings.markup.classPrefix
    trailingNewline :=
      settings.markup.trailingNewline && !blocks.any Block.isNoTrailingNewline }
  view := { settings.view with
    tabWidth := (blocks.filterMap Block.tabWidth?).getLastD settings.view.tabWidth }

/-- The settings after one block more. -/
def Settings.with (settings : Settings) : Block → Settings
  | .word _ _ _ => settings
  | .tabWidth _ columns _ => { settings with view := { settings.view with tabWidth := columns } }
  | .classPrefix value => { settings with markup := { settings.markup with classPrefix := value } }
  | .noTrailingNewline =>
      { settings with markup := { settings.markup with trailingNewline := false } }

theorem Settings.after_nil (settings : Settings) : settings.after [] = settings := by
  simp [after]

theorem Settings.after_cons (settings : Settings) (block : Block) (later : List Block) :
    settings.after (block :: later) = (settings.with block).after later := by
  cases block with
  | word text noCall noOption => rfl
  | tabWidth value columns denotes =>
      simp only [after, Settings.with, List.filterMap_cons, Block.tabWidth?, List.getLastD_cons]
      rfl
  | classPrefix value =>
      simp only [after, Settings.with, List.filterMap_cons, Block.classPrefix?, List.getLastD_cons]
      rfl
  | noTrailingNewline =>
      simp [after, Settings.with, Block.tabWidth?, Block.classPrefix?, Block.isNoTrailingNewline]

/-- Puts words before the words read. -/
def Reading.withWords (front : List Text) : Reading → Reading
  | .help settings => .help settings
  | .words settings rest => .words settings (front ++ rest)

theorem Reading.map_withWords_nil (result : Except Failure Reading) :
    result.map (·.withWords []) = result := by
  cases result with
  | error failure => rfl
  | ok reading => cases reading <;> rfl

theorem Reading.map_withWords_append (front next : List Text) (result : Except Failure Reading) :
    result.map (·.withWords (front ++ next)) =
      (result.map (·.withWords next)).map (·.withWords front) := by
  cases result with
  | error failure => rfl
  | ok reading =>
      cases reading with
      | help settings => rfl
      | words settings rest => simp [Except.map, withWords]

namespace Item

theorem ofArguments_help {call : Text} (h : call = "-h".toList ∨ call = "--help".toList)
    (rest : List Text) : ofArguments (call :: rest) = help :: ofArguments rest := by
  cases rest with
  | nil => simp only [ofArguments, if_pos h]
  | cons next more => rw [ofArguments, if_pos h]

theorem ofArguments_single {argument : Text}
    (noHelp : ¬ (argument = "-h".toList ∨ argument = "--help".toList))
    (noTabWidth : argument ≠ "--tab-width".toList)
    (noClassPrefix : argument ≠ "--class-prefix".toList) (rest : List Text) :
    ofArguments (argument :: rest) = single argument :: ofArguments rest := by
  cases rest with
  | nil => simp only [ofArguments, if_neg noHelp, if_neg noTabWidth, if_neg noClassPrefix]
  | cons next more => rw [ofArguments, if_neg noHelp, if_neg noTabWidth, if_neg noClassPrefix]

theorem ofArguments_arguments (block : Block) (rest : List Text) :
    ofArguments (block.arguments ++ rest) = block.item :: ofArguments rest := by
  cases block with
  | word text noCall noOption =>
      have other (name : Text) (dashes : "--".toList <+: name) : text ≠ name := by
        rintro rfl
        exact noOption dashes
      have dashless : text.take 2 ≠ "--".toList :=
        fun same => noOption (List.prefix_iff_eq_take.2 same.symm)
      have word : single text = .word text := by
        rw [single, if_neg (other _ (by decide)), if_neg dashless]
      rw [Block.arguments, List.singleton_append,
        ofArguments_single (not_or.2 ⟨noCall, other _ (by decide)⟩) (other _ (by decide))
          (other _ (by decide)), word]
      rfl
  | tabWidth value columns denotes =>
      have reads : ofTabWidth value = .tabWidth columns := by
        rw [ofTabWidth, Count.ofText?_eq_some_iff.2 denotes]
      exact congrArg (· :: ofArguments rest) reads
  | classPrefix value => rfl
  | noTrailingNewline => exact ofArguments_single (by decide) (by decide) (by decide) rest

/-- A command line is read block after block. -/
theorem ofArguments_line (blocks : List Block) (rest : List Text) :
    ofArguments (Block.line blocks ++ rest) = blocks.map Block.item ++ ofArguments rest := by
  induction blocks with
  | nil => rfl
  | cons block later ih =>
      rw [Block.line, List.flatMap_cons, List.append_assoc, ofArguments_arguments, ← Block.line, ih,
        List.map_cons, List.cons_append]

theorem apply_item (settings : Settings) (block : Block) (items : List Item) :
    apply settings (block.item :: items) =
      (apply (settings.with block) items).map (·.withWords block.word?.toList) := by
  cases block with
  | word text noCall noOption => rfl
  | tabWidth value columns denotes => exact (Reading.map_withWords_nil _).symm
  | classPrefix value => exact (Reading.map_withWords_nil _).symm
  | noTrailingNewline => exact (Reading.map_withWords_nil _).symm

/-- Of what the blocks do there is left the last setting of each kind, and the words. -/
theorem apply_items (settings : Settings) (blocks : List Block) (items : List Item) :
    apply settings (blocks.map Block.item ++ items) =
      (apply (settings.after blocks) items).map (·.withWords (Block.words blocks)) := by
  induction blocks generalizing settings with
  | nil => exact settings.after_nil.symm ▸ (Reading.map_withWords_nil _).symm
  | cons block later ih =>
      rw [List.map_cons, List.cons_append, apply_item, ih, settings.after_cons, Block.words_cons,
        Reading.map_withWords_append]

end Item

namespace Invocation

/-- What a command line comes to that goes on behind its blocks. -/
theorem ofArguments_line_append (blocks : List Block) (rest : List Text) :
    ofArguments (Block.line blocks ++ rest) =
      ((Item.apply (Settings.after {} blocks) (Item.ofArguments rest)).map
        (·.withWords (Block.words blocks))).bind ofReading := by
  rw [ofArguments, Item.ofArguments_line, Item.apply_items]

theorem ofArguments_line (blocks : List Block) :
    ofArguments (Block.line blocks) =
      (Command.ofWords (Block.words blocks)).map (⟨·, Settings.after {} blocks⟩) := by
  have whole := ofArguments_line_append blocks []
  rw [List.append_nil] at whole
  rw [whole]
  change ofReading (.words _ (Block.words blocks ++ [])) = _
  rw [List.append_nil, ofReading]

end Invocation

/-- **Options can stand anywhere.** Two command lines that are made of blocks come to the same, be
it a command or a failure, if they have the same words in the same order, the last tab widths and
the last class prefixes are the same or missing in both, and both or none forbid the trailing
newline. Tab widths are compared as counts, so `4` and `+4` are the same one. -/
theorem options_stand_anywhere (a b : List Block) (words : Block.words a = Block.words b)
    (tabWidth : (a.filterMap Block.tabWidth?).getLast? = (b.filterMap Block.tabWidth?).getLast?)
    (classPrefix :
      (a.filterMap Block.classPrefix?).getLast? = (b.filterMap Block.classPrefix?).getLast?)
    (newline : a.any Block.isNoTrailingNewline = b.any Block.isNoTrailingNewline) :
    Invocation.ofArguments (Block.line a) = Invocation.ofArguments (Block.line b) := by
  have settings : Settings.after {} a = Settings.after {} b := by
    simp only [Settings.after, List.getLastD_eq_getLast?, tabWidth, classPrefix, newline]
  rw [Invocation.ofArguments_line, Invocation.ofArguments_line, words, settings]

/-- The same view, asked for with values that look like a call for help and like an option. -/
theorem options_stand_around_words :
    let four : Count.Denotes "+4".toList 4 := Count.ofText?_eq_some_iff.1 rfl
    let nine : Count.Denotes "9".toList 9 := Count.ofText?_eq_some_iff.1 rfl
    let four' : Count.Denotes "4".toList 4 := Count.ofText?_eq_some_iff.1 rfl
    let view : Block := .word "view".toList (by decide) (by decide)
    let vertex : Block := .word "-".toList (by decide) (by decide)
    let fragment : Block := .word "@a".toList (by decide) (by decide)
    let a : List Block :=
      [view, .tabWidth _ 9 nine, vertex, .classPrefix "-h".toList, fragment, .tabWidth _ 4 four]
    let b : List Block :=
      [.classPrefix "--tab-width".toList, .classPrefix "-h".toList, .tabWidth _ 4 four', view,
        vertex, fragment]
    Block.words a = Block.words b ∧
      (a.filterMap Block.tabWidth?).getLast? = (b.filterMap Block.tabWidth?).getLast? ∧
      (a.filterMap Block.classPrefix?).getLast? = (b.filterMap Block.classPrefix?).getLast? ∧
      a.any Block.isNoTrailingNewline = b.any Block.isNoTrailingNewline ∧
      Invocation.ofArguments (Block.line a) = Invocation.ofArguments (Block.line b) := by
  intro four nine four' view vertex fragment a b
  exact ⟨rfl, rfl, rfl, rfl, options_stand_anywhere a b rfl rfl rfl rfl⟩

end ShaderLens
