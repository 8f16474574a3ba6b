import ShaderLens.Proofs.Invocation.Decision
import ShaderLens.Proofs.Text.Trimming

/-!
# Words for sources

A word stands for what is left of it between its blanks. Nothing and a lone `@` name no source, and
what is neither `@@` nor `-` names a file (`Source.ofWord?_cases`). No path that is read off a word
is empty: an `@` can have blanks behind it, but they do not reach to the end of the word. So every
path without blanks around it has a word, be it one that looks like an option.
-/

namespace ShaderLens

namespace Source

variable {word path : Text}

/-- Only what stands between the blanks counts. -/
theorem ofWord?_congr {other : Text} (same : word.trim = other.trim) :
    ofWord? word = ofWord? other := by
  rw [ofWord?, ofWord?, same]

theorem bare_mark : Text.Bare ['@'] := by
  decide

/-- A word that is none of the special ones names a file. -/
theorem exists_path (nothing : ¬ (word.trim = [] ∨ word.trim = ['@']))
    (noClipboard : word.trim ≠ ['@', '@']) (noStdin : word.trim ≠ ['-']) :
    ∃ path : Text, path ≠ [] ∧ path.Bare ∧ ofWord? word = some (file path) := by
  obtain ⟨nonempty, noMark⟩ := not_or.1 nothing
  have bare := Text.bare_trim word
  simp only [ofWord?, if_neg nothing, if_neg noClipboard, if_neg noStdin]
  by_cases marked : word.trim.head? = some '@'
  · obtain ⟨rest, name⟩ := List.head?_eq_some_iff.1 marked
    rw [name] at bare noMark ⊢
    have left : Text.trim rest ≠ [] := by
      apply bare.trim_tail_ne_nil
      rintro rfl
      exact noMark rfl
    exact ⟨Text.trim rest, left, Text.bare_trim rest, if_neg left⟩
  · rw [if_neg marked]
    exact ⟨word.trim, nonempty, bare, if_neg nonempty⟩

theorem ofWord?_cases (word : Text) :
    (word.trim = [] ∨ word.trim = ['@']) ∧ ofWord? word = none ∨
    ofWord? word = some clipboard ∨
    ofWord? word = some stdin ∨
    ∃ path : Text, path ≠ [] ∧ path.Bare ∧ ofWord? word = some (file path) := by
  by_cases nothing : word.trim = [] ∨ word.trim = ['@']
  · refine .inl ⟨nothing, ?_⟩
    rw [ofWord?, if_pos nothing]
  by_cases clipboard : word.trim = ['@', '@']
  · refine .inr (.inl ?_)
    simp only [ofWord?, if_neg nothing, if_pos clipboard]
  by_cases stdin : word.trim = ['-']
  · refine .inr (.inr (.inl ?_))
    simp only [ofWord?, if_neg nothing, if_neg clipboard, if_pos stdin]
  · exact .inr (.inr (.inr (exists_path nothing clipboard stdin)))

theorem ofWord?_eq_none_iff :
    ofWord? word = none ↔ word.trim = [] ∨ word.trim = ['@'] := by
  constructor
  · intro refused
    obtain ⟨nothing, -⟩ | named | named | ⟨path, -, -, named⟩ := ofWord?_cases word
    · exact nothing
    all_goals
      rw [named] at refused
      cases refused
  · intro nothing
    rw [ofWord?, if_pos nothing]

theorem bare_of_ofWord? (named : ofWord? word = some (file path)) : path ≠ [] ∧ path.Bare := by
  obtain ⟨-, other⟩ | other | other | ⟨_, nonempty, bare, other⟩ := ofWord?_cases word
  all_goals
    rw [other] at named
    cases named
  exact ⟨nonempty, bare⟩

theorem ofWord?_marked (nonempty : path ≠ []) (bare : path.Bare) (noMark : path ≠ ['@']) :
    ofWord? ('@' :: path) = some (file path) := by
  have whole : Text.Bare ('@' :: path) := bare.cons (by decide)
  simp [ofWord?, whole.trim_eq, bare.trim_eq, nonempty, noMark]

theorem ofWord?_plain (nonempty : path ≠ []) (bare : path.Bare) (noStdin : path ≠ ['-'])
    (noMark : path.head? ≠ some '@') : ofWord? path = some (file path) := by
  have other (name : Text) (mark : name.head? = some '@') : path ≠ name := by
    rintro rfl
    exact noMark mark
  simp only [ofWord?, bare.trim_eq]
  rw [if_neg (not_or.2 ⟨nonempty, other _ rfl⟩), if_neg (other _ rfl), if_neg noStdin,
    if_neg noMark, if_neg nonempty]

end Source

/-- A word that is no option names the source of a command. -/
theorem Invocation.ofArguments_html {word : Text} {source : Source}
    (names : Source.ofWord? word = some source) (noCall : word ≠ "-h".toList)
    (noOption : ¬ "--".toList <+: word) :
    ofArguments ["html".toList, word] = .ok ⟨.html source, {}⟩ := by
  let blocks : List Block :=
    [.word "html".toList (by decide) (by decide), .word word noCall noOption]
  have called : Command.Called (Block.words blocks) (.ok (.html source)) :=
    .complete (.html source) [word] (congrArg ([·]) names)
  change ofArguments (Block.line blocks) = _
  rw [ofArguments_line, called.ofWords_eq]
  rfl

/-- **Every path can be given by a word.** Blanks around a word make no difference. A word names no
source iff it is made of blanks, with a single `@` among them or without. The paths that it names
have a character and no blanks around them, and every path of this kind has a word: behind an `@`
each of them is taken as it stands, if it is not `@` itself, also on a command line where it would
be an option without the `@`; and it needs no `@` if it does not begin with one and is not `-`. -/
theorem every_path_has_word (word : Text) :
    (∀ u v : Text, u.Blanks → v.Blanks →
      Source.ofWord? (u ++ word ++ v) = Source.ofWord? word) ∧
    (Source.ofWord? word = none ↔
      word.Blanks ∨ ∃ u v : Text, u.Blanks ∧ v.Blanks ∧ word = u ++ '@' :: v) ∧
    (∀ path, Source.ofWord? word = some (.file path) → path ≠ [] ∧ path.Bare) ∧
    ∀ path : Text, path ≠ [] → path.Bare →
      (path ≠ ['@'] →
        Source.ofWord? ('@' :: path) = some (.file path) ∧
        Invocation.ofArguments ["html".toList, '@' :: path] = .ok ⟨.html (.file path), {}⟩) ∧
      (path ≠ ['-'] → path.head? ≠ some '@' → Source.ofWord? path = some (.file path)) := by
  refine ⟨?_, ?_, ?_, ?_⟩
  · intro u v before after
    exact Source.ofWord?_congr (Text.trim_surrounded before after word)
  · rw [Source.ofWord?_eq_none_iff, Text.trim_eq_nil_iff, Text.trim_eq_iff]
    simp only [Source.bare_mark, true_and, List.append_assoc, List.singleton_append]
  · intro path named
    exact Source.bare_of_ofWord? named
  · intro path nonempty bare
    constructor
    · intro noMark
      have named := Source.ofWord?_marked nonempty bare noMark
      refine ⟨named, Invocation.ofArguments_html named ?_ ?_⟩
      · exact fun same => absurd (List.head_eq_of_cons_eq same) (by decide)
      · rintro ⟨rest, same⟩
        exact absurd (List.head_eq_of_cons_eq same) (by decide)
    · exact Source.ofWord?_plain nonempty bare

/-- A path with blanks inside that looks like an option, between blanks of other kinds. -/
theorem dashed_path_has_word :
    let path : Text := "--@ x".toList
    let before : Text := "\u00A0\t".toList
    let behind : Text := "\u3000\n".toList
    before.Blanks ∧ behind.Blanks ∧ path ≠ [] ∧ path.Bare ∧ path ≠ ['@'] ∧ path ≠ ['-'] ∧
      path.head? ≠ some '@' ∧
      Source.ofWord? (before ++ '@' :: path ++ behind) = some (.file path) ∧
      Invocation.ofArguments ["html".toList, '@' :: path] = .ok ⟨.html (.file path), {}⟩ ∧
      Source.ofWord? (before ++ path ++ behind) = some (.file path) ∧
      Source.ofWord? (before ++ '@' :: behind) = none := by
  intro path before behind
  have blanksBefore : before.Blanks := by decide
  have blanksBehind : behind.Blanks := by decide
  have bare : path.Bare := by decide
  obtain ⟨around, -, -, has⟩ := every_path_has_word ('@' :: path)
  obtain ⟨aroundPlain, -, -, -⟩ := every_path_has_word path
  obtain ⟨-, refused, -, -⟩ := every_path_has_word (before ++ '@' :: behind)
  obtain ⟨marked, plain⟩ := has path (by decide) bare
  obtain ⟨named, read⟩ := marked (by decide)
  refine ⟨blanksBefore, blanksBehind, by decide, bare, by decide, by decide, by decide, ?_, read,
    ?_, ?_⟩
  · rw [around before behind blanksBefore blanksBehind, named]
  · rw [aroundPlain before behind blanksBefore blanksBehind, plain (by decide) (by decide)]
  · exact refused.2 (.inr ⟨before, behind, blanksBefore, blanksBehind, rfl⟩)

end ShaderLens
