import Mathlib.Data.List.Basic
import ShaderLens.Proofs.Invocation.Blocks

/-!
# What decides a command line

Three things compete for a command line: a call for help, a fault in an option, and the words. The
first call for help or fault decides, whatever the words are, and without one the words do
(`Invocation.Decided`). Of what can be wrong with the words a surplus word comes before a missing
source (`Command.Called`). Every command line is decided in just one way, and this is what reading
it comes to (`command_line_decided_iff`).
-/

namespace ShaderLens

namespace Command

/-- The names of the commands, with the sources that each needs. -/
def needs : List (Text × List Missing) :=
  [ ("help".toList, []), ("html".toList, [.shaderSource]), ("tokens".toList, [.shaderSource]),
    ("view".toList, [.vertexSource, .fragmentSource]) ]

def name : Command → Text
  | html _ => "html".toList
  | tokens _ => "tokens".toList
  | view _ _ => "view".toList
  | help => "help".toList

/-- The first of the needed sources that is not given: there is no word for it, or one that names no
source. -/
inductive Lacks : (needed : List Missing) → (words : List Text) → (what : Missing) → Prop
  | here (what : Missing) (others : List Missing) (words : List Text)
      (notGiven : ∀ word ∈ words.head?, Source.ofWord? word = none) :
      Lacks (what :: others) words what
  | later (given what : Missing) (others : List Missing) (word : Text) (words : List Text)
      (source : Source) (names : Source.ofWord? word = some source)
      (lacks : Lacks others words what) :
      Lacks (given :: others) (word :: words) what

/-- What the words of a command line call for. -/
inductive Called : (words : List Text) → Except Failure Command → Prop
  | noWords : Called [] (.ok help)
  | unknown (name : Text) (words : List Text) (unknown : name ∉ needs.map Prod.fst) :
      Called (name :: words) (.error (.unknownCommand name))
  | surplus (name : Text) (needed : List Missing) (known : (name, needed) ∈ needs)
      (front : List Text) (extra : Text) (more : List Text)
      (filled : front.length = needed.length) :
      Called (name :: (front ++ extra :: more)) (.error (.unexpectedArgument extra))
  | lacking (name : Text) (needed : List Missing) (known : (name, needed) ∈ needs)
      (words : List Text) (what : Missing) (few : words.length ≤ needed.length)
      (lacks : Lacks needed words what) :
      Called (name :: words) (.error (.missingArgument what))
  | complete (command : Command) (words : List Text)
      (sources : words.map Source.ofWord? = command.sources.map some) :
      Called (command.name :: words) (.ok command)

/-- Reads the sources that are needed off the words, in their order. -/
def requireAll : List Missing → List Text → Except Failure (List Source)
  | [], _ => .ok []
  | what :: others, words =>
      (requireSource what words.head?).bind fun source =>
        (requireAll others words.tail).map (source :: ·)

/-- The command with a name and the sources for it. -/
def build (name : Text) (sources : List Source) : Command :=
  match sources with
  | [] => help
  | [source] => if name = "html".toList then html source else tokens source
  | vertex :: fragment :: _ => view vertex fragment

theorem build_sources (command : Command) : build command.name command.sources = command := by
  cases command <;> rfl

theorem mem_needs {name : Text} {needed : List Missing} :
    (name, needed) ∈ needs ↔
      (name = "help".toList ∧ needed = []) ∨ (name = "html".toList ∧ needed = [.shaderSource]) ∨
      (name = "tokens".toList ∧ needed = [.shaderSource]) ∨
      (name = "view".toList ∧ needed = [.vertexSource, .fragmentSource]) := by
  simp only [needs, List.mem_cons, Prod.mk.injEq, List.not_mem_nil, or_false]

section

variable {name extra : Text} {words front more : List Text} {what : Missing}
  {needed : List Missing} {sources : List Source}

/-- A known command allows as many words as it needs sources, and is built from these. -/
theorem ofName_known (known : (name, needed) ∈ needs) :
    ofName name words =
      (allow needed.length words).bind fun _ => (requireAll needed words).map (build name) := by
  have first : words.head? = words[0]? := List.head?_eq_getElem?
  have second : words.tail.head? = words[1]? := by rw [List.head?_tail]
  obtain ⟨rfl, rfl⟩ | ⟨rfl, rfl⟩ | ⟨rfl, rfl⟩ | ⟨rfl, rfl⟩ := mem_needs.1 known
  · rfl
  · simp only [requireAll, first]
    change (allow 1 words).bind _ = (allow 1 words).bind _
    cases requireSource .shaderSource words[0]? <;> rfl
  · simp only [requireAll, first]
    change (allow 1 words).bind _ = (allow 1 words).bind _
    cases requireSource .shaderSource words[0]? <;> rfl
  · simp only [requireAll, first, second]
    change (allow 2 words).bind _ = (allow 2 words).bind _
    cases requireSource .vertexSource words[0]? with
    | error failure => rfl
    | ok vertex => cases requireSource .fragmentSource words[1]? <;> rfl

theorem allow_surplus {limit : Nat} (filled : front.length = limit) :
    allow limit (front ++ extra :: more) = .error (.unexpectedArgument extra) := by
  have found : (front ++ extra :: more)[limit]? = some extra := by
    rw [← filled, List.getElem?_append_right (Nat.le_refl _), Nat.sub_self]
    rfl
  rw [allow, found]

theorem allow_of_le {limit : Nat} (few : words.length ≤ limit) : allow limit words = .ok () := by
  rw [allow, List.getElem?_eq_none few]

theorem requireAll_of_lacks (lacks : Lacks needed words what) :
    requireAll needed words = .error (.missingArgument what) := by
  induction lacks with
  | here what others words notGiven =>
      have refused : requireSource what words.head? = .error (.missingArgument what) := by
        cases words with
        | nil => rfl
        | cons word later =>
            rw [requireSource, List.head?_cons, Option.bind_some, notGiven word rfl]
      rw [requireAll, refused]
      rfl
  | later given what others word words source names lacks ih =>
      rw [requireAll, List.tail_cons, ih, List.head?_cons, requireSource, Option.bind_some, names]
      rfl

theorem requireAll_of_sources (length : sources.length = needed.length)
    (names : words.map Source.ofWord? = sources.map some) :
    requireAll needed words = .ok sources := by
  induction needed generalizing words sources with
  | nil =>
      obtain rfl := List.length_eq_zero_iff.1 length
      rfl
  | cons what others ih =>
      obtain ⟨source, rest, rfl⟩ := List.exists_cons_of_length_eq_add_one length
      obtain ⟨word, later, rfl, first, second⟩ := List.map_eq_cons_iff.1 names
      rw [requireAll, List.tail_cons, ih (Nat.succ.inj length) second, List.head?_cons,
        requireSource, Option.bind_some, first]
      rfl

/-- Either a needed source is lacking, or all of them are given. -/
theorem exists_lacks_or_sources (few : words.length ≤ needed.length) :
    (∃ what, Lacks needed words what) ∨
      ∃ sources : List Source, sources.length = needed.length ∧
        words.map Source.ofWord? = sources.map some := by
  induction needed generalizing words with
  | nil =>
      obtain rfl := List.length_eq_zero_iff.1 (Nat.le_zero.1 few)
      exact .inr ⟨[], rfl, rfl⟩
  | cons what others ih =>
      cases words with
      | nil => exact .inl ⟨what, .here what others [] nofun⟩
      | cons word later =>
          cases names : Source.ofWord? word with
          | none =>
              refine .inl ⟨what, .here what others (word :: later) ?_⟩
              rintro _ ⟨⟩
              exact names
          | some source =>
              obtain ⟨other, lacks⟩ | ⟨rest, length, parsed⟩ := ih (Nat.le_of_succ_le_succ few)
              · exact .inl ⟨other, .later what other others word later source names lacks⟩
              · refine .inr ⟨source :: rest, congrArg (· + 1) length, ?_⟩
                rw [List.map_cons, names, parsed, List.map_cons]

/-- A known command can be given any sources, as many as it needs. -/
theorem exists_of_known (known : (name, needed) ∈ needs)
    (length : sources.length = needed.length) :
    ∃ command : Command, command.name = name ∧ command.sources = sources := by
  obtain ⟨rfl, rfl⟩ | ⟨rfl, rfl⟩ | ⟨rfl, rfl⟩ | ⟨rfl, rfl⟩ := mem_needs.1 known
  · obtain rfl := List.length_eq_zero_iff.1 length
    exact ⟨help, rfl, rfl⟩
  · obtain ⟨source, rfl⟩ := List.length_eq_one_iff.1 length
    exact ⟨html source, rfl, rfl⟩
  · obtain ⟨source, rfl⟩ := List.length_eq_one_iff.1 length
    exact ⟨tokens source, rfl, rfl⟩
  · obtain ⟨vertex, fragment, rfl⟩ := List.length_eq_two.1 length
    exact ⟨view vertex fragment, rfl, rfl⟩

/-- Every command is known, and needs as many sources as it has. -/
theorem exists_needs (command : Command) :
    ∃ needed, (command.name, needed) ∈ needs ∧ command.sources.length = needed.length := by
  cases command with
  | help => exact ⟨_, mem_needs.2 (.inl ⟨rfl, rfl⟩), rfl⟩
  | html source => exact ⟨_, mem_needs.2 (.inr (.inl ⟨rfl, rfl⟩)), rfl⟩
  | tokens source => exact ⟨_, mem_needs.2 (.inr (.inr (.inl ⟨rfl, rfl⟩))), rfl⟩
  | view vertex fragment => exact ⟨_, mem_needs.2 (.inr (.inr (.inr ⟨rfl, rfl⟩))), rfl⟩

end

theorem Called.ofWords_eq {words : List Text} {result : Except Failure Command}
    (called : Called words result) : ofWords words = result := by
  cases called with
  | noWords => rfl
  | unknown name words unknown =>
      have other {known : Text} (member : known ∈ needs.map Prod.fst) : name ≠ known := by
        rintro rfl
        exact unknown member
      rw [ofWords, ofName, if_neg (other (by decide)), if_neg (other (by decide)),
        if_neg (other (by decide)), if_neg (other (by decide))]
  | surplus name needed known front extra more filled =>
      rw [ofWords, ofName_known known, allow_surplus filled]
      rfl
  | lacking name needed known words what few lacks =>
      rw [ofWords, ofName_known known, allow_of_le few, requireAll_of_lacks lacks]
      rfl
  | complete command words parsed =>
      obtain ⟨needed, known, length⟩ := exists_needs command
      have same : words.length = command.sources.length := by
        simpa using congrArg List.length parsed
      rw [ofWords, ofName_known known, allow_of_le (by omega), requireAll_of_sources length parsed]
      exact congrArg Except.ok (build_sources command)

theorem exists_called (words : List Text) : ∃ result, Called words result := by
  cases words with
  | nil => exact ⟨_, .noWords⟩
  | cons name words =>
      by_cases unknown : name ∉ needs.map Prod.fst
      · exact ⟨_, .unknown name words unknown⟩
      · obtain ⟨⟨name, needed⟩, known, rfl⟩ := List.mem_map.1 (not_not.1 unknown)
        by_cases few : words.length ≤ needed.length
        · obtain ⟨what, lacks⟩ | ⟨sources, length, parsed⟩ := exists_lacks_or_sources few
          · exact ⟨_, .lacking name needed known words what few lacks⟩
          · obtain ⟨command, rfl, rfl⟩ := exists_of_known known length
            exact ⟨_, .complete command words parsed⟩
        · have filled : (words.take needed.length).length = needed.length :=
            List.length_take_of_le (by omega)
          have parts : words.take needed.length ++
              words[needed.length] :: words.drop (needed.length + 1) = words := by
            rw [List.getElem_cons_drop, List.take_append_drop]
          rw [← parts]
          exact ⟨_, .surplus name needed known _ _ _ filled⟩

end Command

/-- A fault in the option that some arguments begin with: there is no value for it, or one that is
no count, or the option is none of those that there are. -/
inductive Fault : (arguments : List Text) → Failure → Prop
  | noTabWidth : Fault ["--tab-width".toList] (.missingArgument .tabWidth)
  | noClassPrefix : Fault ["--class-prefix".toList] (.missingArgument .classPrefix)
  | tabWidth (value : Text) (rest : List Text) (noCount : ∀ n, ¬ Count.Denotes value n) :
      Fault ("--tab-width".toList :: value :: rest)
        (.invalidOption ("--tab-width ".toList ++ value))
  | option (option : Text) (rest : List Text) (dashes : "--".toList <+: option)
      (noHelp : option ≠ "--help".toList) (noTabWidth : option ≠ "--tab-width".toList)
      (noClassPrefix : option ≠ "--class-prefix".toList)
      (noNewline : option ≠ "--no-trailing-newline".toList) :
      Fault (option :: rest) (.invalidOption option)

theorem Fault.ofArguments_eq {arguments : List Text} {failure : Failure}
    (fault : Fault arguments failure) :
    ∃ items, Item.ofArguments arguments = .fault failure :: items := by
  cases fault with
  | noTabWidth => exact ⟨[], rfl⟩
  | noClassPrefix => exact ⟨[], rfl⟩
  | tabWidth value rest noCount =>
      have refused : Item.ofTabWidth value =
          .fault (.invalidOption ("--tab-width ".toList ++ value)) := by
        rw [Item.ofTabWidth, Count.ofText?_eq_none_iff.2 noCount]
      exact ⟨Item.ofArguments rest, congrArg (· :: Item.ofArguments rest) refused⟩
  | option option rest dashes noHelp noTabWidth noClassPrefix noNewline =>
      have noCall : option ≠ "-h".toList := by
        rintro rfl
        exact absurd dashes (by decide)
      have refused : Item.single option = .fault (.invalidOption option) := by
        have front : option.take 2 = "--".toList := (List.prefix_iff_eq_take.1 dashes).symm
        rw [Item.single, if_neg noNewline, if_pos front]
      refine ⟨Item.ofArguments rest, ?_⟩
      rw [Item.ofArguments_single (not_or.2 ⟨noCall, noHelp⟩) noTabWidth noClassPrefix, refused]

/-- Where the blocks of a command line end: with the last argument, before a call for help, or
before a fault. -/
inductive Stop : (rest : List Text) → Prop
  | nothing : Stop []
  | call (call : Text) (rest : List Text) (calls : call = "-h".toList ∨ call = "--help".toList) :
      Stop (call :: rest)
  | fault (rest : List Text) (failure : Failure) (fault : Fault rest failure) : Stop rest

/-- Arguments begin with a block unless the blocks have ended. -/
theorem stop_or_exists_block (arguments : List Text) :
    Stop arguments ∨ ∃ (block : Block) (rest : List Text), arguments = block.arguments ++ rest := by
  obtain - | ⟨argument, rest⟩ := arguments
  · exact .inl .nothing
  by_cases calls : argument = "-h".toList ∨ argument = "--help".toList
  · exact .inl (.call argument rest calls)
  obtain ⟨noCall, noHelp⟩ := not_or.1 calls
  by_cases tabWidth : argument = "--tab-width".toList
  · subst tabWidth
    cases rest with
    | nil => exact .inl (.fault _ _ .noTabWidth)
    | cons value rest =>
        by_cases count : ∃ columns, Count.Denotes value columns
        · obtain ⟨columns, denotes⟩ := count
          exact .inr ⟨.tabWidth value columns denotes, rest, rfl⟩
        · exact .inl (.fault _ _ (.tabWidth value rest (not_exists.1 count)))
  by_cases classPrefix : argument = "--class-prefix".toList
  · subst classPrefix
    cases rest with
    | nil => exact .inl (.fault _ _ .noClassPrefix)
    | cons value rest => exact .inr ⟨.classPrefix value, rest, rfl⟩
  by_cases newline : argument = "--no-trailing-newline".toList
  · subst newline
    exact .inr ⟨.noTrailingNewline, rest, rfl⟩
  by_cases dashes : "--".toList <+: argument
  · exact .inl (.fault _ _ (.option argument rest dashes noHelp tabWidth classPrefix newline))
  · exact .inr ⟨.word argument noCall dashes, rest, rfl⟩

/-- Any command line is made of blocks up to where they end. -/
theorem exists_line (arguments : List Text) :
    ∃ (blocks : List Block) (rest : List Text),
      arguments = Block.line blocks ++ rest ∧ Stop rest := by
  obtain stop | ⟨block, later, parts⟩ := stop_or_exists_block arguments
  · exact ⟨[], arguments, rfl, stop⟩
  · -- The recursion ends because a block has an argument at least.
    have shorter : later.length < arguments.length := by
      have taken := block.length_arguments_pos
      rw [parts, List.length_append]
      omega
    obtain ⟨blocks, rest, rfl, stop⟩ := exists_line later
    refine ⟨block :: blocks, rest, ?_, stop⟩
    rw [parts, Block.line, Block.line, List.flatMap_cons, List.append_assoc]
termination_by arguments.length

namespace Invocation

/-- What decides a command line: the first call for help or the first fault that comes behind some
blocks, and without one what the words call for. -/
inductive Decided : (arguments : List Text) → Except Failure Invocation → Prop
  | help (blocks : List Block) (call : Text) (rest : List Text)
      (calls : call = "-h".toList ∨ call = "--help".toList) :
      Decided (Block.line blocks ++ call :: rest) (.ok ⟨.help, Settings.after {} blocks⟩)
  | fault (blocks : List Block) (rest : List Text) (failure : Failure)
      (fault : Fault rest failure) :
      Decided (Block.line blocks ++ rest) (.error failure)
  | words (blocks : List Block) (result : Except Failure Command)
      (called : Command.Called (Block.words blocks) result) :
      Decided (Block.line blocks) (result.map (⟨·, Settings.after {} blocks⟩))

theorem Decided.ofArguments_eq {arguments : List Text} {result : Except Failure Invocation}
    (decided : Decided arguments result) : ofArguments arguments = result := by
  cases decided with
  | help blocks call rest calls =>
      rw [ofArguments_line_append, Item.ofArguments_help calls]
      rfl
  | fault blocks rest failure fault =>
      obtain ⟨items, first⟩ := fault.ofArguments_eq
      rw [ofArguments_line_append, first]
      rfl
  | words blocks result called => rw [ofArguments_line, called.ofWords_eq]

theorem exists_decided (arguments : List Text) : ∃ result, Decided arguments result := by
  obtain ⟨blocks, rest, rfl, stop⟩ := exists_line arguments
  cases stop with
  | nothing =>
      obtain ⟨result, called⟩ := Command.exists_called (Block.words blocks)
      rw [List.append_nil]
      exact ⟨_, .words blocks result called⟩
  | call call rest calls => exact ⟨_, .help blocks call rest calls⟩
  | fault rest failure fault => exact ⟨_, .fault blocks rest failure fault⟩

end Invocation

/-- **A command line comes to what decides it.** Behind some blocks, the first call for help decides
with the settings so far, or the first fault in an option with its failure, whatever comes later and
whatever the words are. Without these two the words decide: no words are a call for help, an unknown
first word is refused, then a word more than the command takes, be the words before it sources or
not, and then the first source that is lacking; else they are the command with its sources. One of
these is the case for each command line, and reading it comes to that and nothing else. -/
theorem command_line_decided_iff (arguments : List Text) (result : Except Failure Invocation) :
    Invocation.ofArguments arguments = result ↔ Invocation.Decided arguments result := by
  constructor
  · rintro rfl
    obtain ⟨result, decided⟩ := Invocation.exists_decided arguments
    rwa [decided.ofArguments_eq]
  · intro decided
    exact decided.ofArguments_eq

/-- The `-h` is a value and the `@` no source, but the word too many decides. -/
example :
    Invocation.ofArguments
        (["tokens", "--class-prefix", "-h", "@", "--tab-width", "08", "x"].map String.toList) =
      .error (.unexpectedArgument "x".toList) := by
  rfl

end ShaderLens
