import ShaderLens.Proofs.Line.Joining
import ShaderLens.Proofs.Markup.Reading

/-!
# Plain text and markup

Shader text is shown highlighted or plain, and both ways it says the same. The tags in markup are
all tags of spans (`spansOnly_render`), and without them it is the escaped text. Plain text is the
escaped text as well, with an element for each line break. Escaped text holds no tag, so neither
kind of tag is ever confused with the text of a shader (`plain_agrees_with_highlight`).
-/

namespace ShaderLens.Markup

/-- The text begins with the opening or the closing tag of a span. -/
def BeginsSpan (t : Text) : Prop :=
  "<span ".toList <+: t ∨ "</span>".toList <+: t

instance : DecidablePred BeginsSpan :=
  fun t => inferInstanceAs (Decidable ("<span ".toList <+: t ∨ "</span>".toList <+: t))

/-- Leaves the tags of spans out, each through the next `>`; `inTag` says that one is still open.
All other tags stay. -/
def withoutSpans (inTag : Bool) : Text → Text
  | [] => []
  | c :: rest =>
      if inTag then withoutSpans (c ≠ '>') rest
      else if BeginsSpan (c :: rest) then withoutSpans true rest
      else c :: withoutSpans false rest

/-- Reads each line break element as a line feed. -/
def withFeeds : Text → Text
  | [] => []
  | '<' :: 'b' :: 'r' :: ' ' :: '/' :: '>' :: rest => '\n' :: withFeeds rest
  | c :: rest => c :: withFeeds rest

/-! ## The tags of markup -/

/-- Wherever a tag begins, it is that of a span. -/
def SpansOnly (t : Text) : Prop :=
  ∀ rest, '<' :: rest <:+ t → BeginsSpan ('<' :: rest)

theorem BeginsSpan.eq_less {c : Char} {rest : Text} (h : BeginsSpan (c :: rest)) : c = '<' := by
  obtain opening | closing := h
  · exact (List.cons_prefix_cons.1 opening).1.symm
  · exact (List.cons_prefix_cons.1 closing).1.symm

theorem BeginsSpan.append {t : Text} (h : BeginsSpan t) (more : Text) : BeginsSpan (t ++ more) := by
  obtain opening | closing := h
  · exact .inl (opening.trans (List.prefix_append t more))
  · exact .inr (closing.trans (List.prefix_append t more))

theorem SpansOnly.tail {c : Char} {t : Text} (h : SpansOnly (c :: t)) : SpansOnly t := by
  intro rest isEnd
  exact h rest (isEnd.trans (List.suffix_cons c t))

theorem SpansOnly.append {a b : Text} (ha : SpansOnly a) (hb : SpansOnly b) :
    SpansOnly (a ++ b) := by
  induction a with
  | nil => exact hb
  | cons c a ih =>
      intro rest isEnd
      obtain same | later := List.suffix_cons_iff.1 isEnd
      · obtain ⟨rfl, rfl⟩ := List.cons.inj same
        exact (ha a List.suffix_rfl).append b
      · exact ih ha.tail rest later

theorem spansOnly_of_not_mem {t : Text} (plain : '<' ∉ t) : SpansOnly t := by
  intro rest isEnd
  exact absurd (isEnd.subset List.mem_cons_self) plain

/-- A text that begins with the tag of a span and has no other tag. -/
theorem spansOnly_cons {t : Text} (begins : BeginsSpan ('<' :: t)) (plain : '<' ∉ t) :
    SpansOnly ('<' :: t) := by
  intro rest isEnd
  obtain same | later := List.suffix_cons_iff.1 isEnd
  · rwa [same]
  · exact spansOnly_of_not_mem plain rest later

theorem spansOnly_written (e : Element) : SpansOnly e.written := by
  have opening : SpansOnly "<span class=\"".toList := spansOnly_cons (by decide) (by decide)
  have closing : SpansOnly "</span>".toList := spansOnly_cons (by decide) (by decide)
  have between : SpansOnly "\">".toList := spansOnly_of_not_mem (by decide)
  have className := spansOnly_of_not_mem e.className.less_not_mem
  have content := spansOnly_of_not_mem e.content.less_not_mem
  exact (((opening.append className).append between).append content).append closing

theorem spansOnly_document (d : Document) : SpansOnly d.written := by
  have items (items : List (Element × InertText)) : SpansOnly (Document.writtenItems items) := by
    induction items with
    | nil => exact spansOnly_of_not_mem List.not_mem_nil
    | cons item more ih =>
        have text := spansOnly_of_not_mem item.2.less_not_mem
        rw [Document.writtenItems_cons]
        exact (spansOnly_written item.1).append (text.append ih)
  exact (spansOnly_of_not_mem d.lead.less_not_mem).append (items d.items)

/-- The tags in markup are those of its spans, whatever the tokens and the class prefix are. -/
theorem spansOnly_render (settings : Settings) (tokens : List Token) :
    SpansOnly (render settings tokens) := by
  have last : '<' ∉ ending settings := by
    unfold ending
    split <;> simp
  rw [render_eq]
  exact (spansOnly_document _).append (spansOnly_of_not_mem last)

/-- To leave out the tags of spans is to leave out all tags, where there are no others. -/
theorem withoutSpans_eq_withoutTags {t : Text} (only : SpansOnly t) (inTag : Bool) :
    withoutSpans inTag t = withoutTags inTag t := by
  induction t generalizing inTag with
  | nil => rfl
  | cons c rest ih =>
      rw [withoutSpans, withoutTags, ih only.tail, ih only.tail, ih only.tail]
      by_cases less : c = '<'
      · subst less
        rw [if_pos (only rest List.suffix_rfl), if_pos rfl]
      · rw [if_neg (mt BeginsSpan.eq_less less), if_neg less]

theorem withoutSpans_highlight (classPrefix s : Text) :
    withoutSpans false (highlight ⟨classPrefix, false⟩ s) = escape s := by
  have whole : withoutTags false (render ⟨classPrefix, false⟩ s.tokens) =
      escape (Token.join s.tokens) ++ [] := withoutTags_pieces s.tokens []
  rw [highlight, withoutSpans_eq_withoutTags (spansOnly_render _ _), whole, Text.join_tokens,
    List.append_nil]

/-! ## Line breaks -/

theorem intercalate_splitOn (between t : Text) :
    between.intercalate (t.splitOn '\n') =
      t.flatMap fun c => if c = '\n' then between else [c] := by
  rw [List.splitOn_eq_splitOnP]
  induction t with
  | nil => rfl
  | cons c rest ih =>
      have nonempty := List.splitOnP_ne_nil (· == '\n') rest
      obtain ⟨first, later, lines⟩ := List.exists_cons_of_ne_nil nonempty
      rw [List.flatMap_cons, ← ih, splitOnP_cons, lines]
      by_cases feed : c = '\n'
      · simp [feed]
      · cases later <;> simp [feed, continueLine]

theorem withFeeds_breakLine (c : Char) (plain : c ≠ '<') (rest : Text) :
    withFeeds (breakLine c ++ rest) = c :: withFeeds rest := by
  unfold breakLine
  split
  · next feed =>
      subst feed
      rfl
  · rw [List.singleton_append, withFeeds]
    intro more same
    exact absurd same plain

theorem withFeeds_flatMap_breakLine {t : Text} (plain : '<' ∉ t) :
    withFeeds (t.flatMap breakLine) = t := by
  induction t with
  | nil => rfl
  | cons c rest ih =>
      rw [List.mem_cons, not_or] at plain
      rw [List.flatMap_cons, withFeeds_breakLine c (Ne.symm plain.1), ih plain.2]

theorem feed_not_mem_plain (s : Text) : '\n' ∉ plain s := by
  intro inside
  obtain ⟨c, -, member⟩ := List.mem_flatMap.1 inside
  unfold breakLine at member
  split at member
  · revert member
    decide
  · next other => exact other (List.mem_singleton.1 member).symm

/-- **Plain text says what the highlighted text says.** Without the tags of its spans and with an
element in place of each line feed, markup is plain text, whatever the class prefix is. No line feed
is left in plain text, and the source is read back from it: each of those elements as a line feed,
and then the entities. -/
theorem plain_agrees_with_highlight (classPrefix s : Text) :
    let bare := withoutSpans false (highlight ⟨classPrefix, false⟩ s)
    "<br />".toList.intercalate (bare.splitOn '\n') = plain s ∧
    '\n' ∉ plain s ∧ unescape (withFeeds (plain s)) = s := by
  intro bare
  have stripped : bare = escape s := withoutSpans_highlight classPrefix s
  refine ⟨?_, feed_not_mem_plain s, ?_⟩
  · rw [intercalate_splitOn, stripped]
    rfl
  · have undelimited := (inert_escape s).undelimited '<' (by simp)
    rw [plain, withFeeds_flatMap_breakLine undelimited, unescape_escape]

/-- A line break element in the source is text. -/
example : plain "<br />\n".toList = "&lt;br /&gt;<br />".toList := by
  decide +kernel

end ShaderLens.Markup
