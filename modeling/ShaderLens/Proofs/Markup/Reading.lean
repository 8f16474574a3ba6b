import ShaderLens.Proofs.Markup.Rendering

/-!
# Reading markup back

Markup without its tags and with its entities decoded is the text of the tokens
(`unescape_withoutTags_render`). The tags say the rest: which words there are and of what kind. So
two lists of tokens have the same markup only if they have the same layout
(`render_eq_iff_layout`).
-/

namespace ShaderLens.Markup

/-- Reads each of the five entities as the character it stands for. -/
def unescape : Text → Text
  | [] => []
  | '&' :: 'a' :: 'm' :: 'p' :: ';' :: rest => '&' :: unescape rest
  | '&' :: 'l' :: 't' :: ';' :: rest => '<' :: unescape rest
  | '&' :: 'g' :: 't' :: ';' :: rest => '>' :: unescape rest
  | '&' :: 'q' :: 'u' :: 'o' :: 't' :: ';' :: rest => '"' :: unescape rest
  | '&' :: '#' :: '3' :: '9' :: ';' :: rest => '\x27' :: unescape rest
  | c :: rest => c :: unescape rest

/-- Leaves tags out, from `<` through the next `>`; `inTag` says that one is still open. -/
def withoutTags (inTag : Bool) : Text → Text
  | [] => []
  | c :: rest =>
      if inTag then withoutTags (c ≠ '>') rest
      else if c = '<' then withoutTags true rest
      else c :: withoutTags false rest

theorem unescape_cons {c : Char} (plain : c ≠ '&') (rest : Text) :
    unescape (c :: rest) = c :: unescape rest := by
  rw [unescape] <;> simp [plain]

theorem unescape_escapeChar_append (c : Char) (rest : Text) :
    unescape (escapeChar c ++ rest) = c :: unescape rest := by
  unfold escapeChar
  split_ifs with amp less greater quote apostrophe
  · subst amp
    rfl
  · subst less
    rfl
  · subst greater
    rfl
  · subst quote
    rfl
  · subst apostrophe
    rfl
  · exact unescape_cons amp rest

theorem unescape_escape_append (t rest : Text) :
    unescape (escape t ++ rest) = t ++ unescape rest := by
  induction t with
  | nil => rfl
  | cons c t ih =>
      change unescape (escapeChar c ++ escape t ++ rest) = c :: (t ++ unescape rest)
      rw [List.append_assoc, unescape_escapeChar_append, ih]

theorem unescape_escape (t : Text) : unescape (escape t) = t := by
  simpa [unescape] using unescape_escape_append t []

theorem escape_injective {a b : Text} (same : escape a = escape b) : a = b := by
  rw [← unescape_escape a, same, unescape_escape]

theorem withoutTags_append {t : Text} (plain : '<' ∉ t) (rest : Text) :
    withoutTags false (t ++ rest) = t ++ withoutTags false rest := by
  induction t with
  | nil => rfl
  | cons c t ih =>
      rw [List.mem_cons, not_or] at plain
      have other : c ≠ '<' := fun same => plain.1 same.symm
      simp [withoutTags, other, ih plain.2]

theorem withoutTags_tag {t : Text} (inside : '>' ∉ t) (rest : Text) :
    withoutTags false ('<' :: (t ++ '>' :: rest)) = withoutTags false rest := by
  change withoutTags true (t ++ '>' :: rest) = withoutTags false rest
  induction t with
  | nil => rfl
  | cons c t ih =>
      rw [List.mem_cons, not_or] at inside
      have other : c ≠ '>' := fun same => inside.1 same.symm
      simp [withoutTags, other, ih inside.2]

theorem withoutTags_element (e : Element) (rest : Text) :
    withoutTags false (e.written ++ rest) = e.content.val ++ withoutTags false rest := by
  have begins : '>' ∉ "span class=\"".toList ++ (e.className.val ++ ['"']) := by
    rw [List.mem_append, List.mem_append, not_or, not_or]
    exact ⟨by simp, e.className.property.undelimited '>' (by simp), by simp⟩
  have ends : '>' ∉ "/span".toList := by simp
  calc withoutTags false (e.written ++ rest)
    _ = withoutTags false ('<' :: (("span class=\"".toList ++ (e.className.val ++ ['"'])) ++ '>' ::
          (e.content.val ++ '<' :: ("/span".toList ++ '>' :: rest)))) := by
        rw [Element.written_append]
        simp
    _ = withoutTags false (e.content.val ++ '<' :: ("/span".toList ++ '>' :: rest)) :=
        withoutTags_tag begins _
    _ = e.content.val ++ withoutTags false rest := by
        rw [withoutTags_append e.content.less_not_mem, withoutTags_tag ends]

variable {settings : Settings}

theorem withoutTags_piece (token : Token) (rest : Text) :
    withoutTags false (piece settings token ++ rest) =
      escape token.text ++ withoutTags false rest := by
  unfold piece
  split
  · exact withoutTags_append (inert_escape token.text |>.undelimited '<' (by simp)) rest
  · rw [element_eq_written, withoutTags_element]
    rfl

theorem withoutTags_pieces (tokens : List Token) (rest : Text) :
    withoutTags false (tokens.flatMap (piece settings) ++ rest) =
      escape (Token.join tokens) ++ withoutTags false rest := by
  induction tokens with
  | nil => rfl
  | cons token later ih =>
      rw [List.flatMap_cons, List.append_assoc, withoutTags_piece, ih, Token.join_cons,
        escape_append, List.append_assoc]

/-- Markup has all of the text, whatever the tokens are. -/
theorem unescape_withoutTags_render (tokens : List Token) :
    unescape (withoutTags false (render settings tokens)) =
      Token.join tokens ++ ending settings := by
  rw [render, withoutTags_pieces, unescape_escape_append]
  unfold ending
  split <;> rfl

theorem toElement_inj {classPrefix : Text} {a b : Token}
    (same : a.toElement classPrefix = b.toElement classPrefix) : a = b := by
  obtain ⟨className, content⟩ := Element.mk.inj same
  have kind := escape_injective (congrArg Subtype.val className)
  have text := escape_injective (congrArg Subtype.val content)
  cases a
  cases b
  exact congr (congrArg Token.mk (TokenKind.name_injective (List.append_cancel_left kind))) text

theorem document_inj {classPrefix : Text} {a b : Layout}
    (same : a.document classPrefix = b.document classPrefix) : a = b := by
  obtain ⟨lead, items⟩ := Document.mk.inj same
  have leads := escape_injective (congrArg Subtype.val lead)
  have alike : a.items = b.items := by
    refine (List.map_inj_right ?_).1 items
    rintro ⟨⟨token, solid⟩, text⟩ ⟨⟨other, solid'⟩, text'⟩ both
    obtain ⟨element, run⟩ := Prod.mk.inj both
    obtain rfl : token = other := toElement_inj element
    obtain rfl : text = text' := escape_injective (congrArg Subtype.val run)
    rfl
  cases a
  cases b
  exact congr (congrArg Layout.mk leads) alike

theorem render_eq_iff_layout {a b : List Token} :
    render settings a = render settings b ↔ Layout.ofTokens a = Layout.ofTokens b := by
  rw [render_eq, render_eq, List.append_cancel_right_eq]
  constructor
  · intro same
    exact document_inj (Document.written_injective same)
  · intro same
    rw [same]

/-- **Markup can be read back.** Lists of tokens have the same markup iff they are the same up to
whitespace without text and the division of whitespace. Lexing settles both of these in one way, so
the markup of a text determines all of its tokens. The text itself is the markup without its tags,
unescaped. -/
theorem render_readable (settings : Settings) :
    (∀ a b, render settings a = render settings b ↔ Token.normal a = Token.normal b) ∧
    (∀ s : Text, Token.normal s.tokens = s.tokens) ∧
    (∀ s t : Text, highlight settings s = highlight settings t → s.tokens = t.tokens ∧ s = t) ∧
    ∀ s, unescape (withoutTags false (highlight settings s)) =
      s ++ if settings.trailingNewline then ['\n'] else [] := by
  have readable (a b : List Token) :
      render settings a = render settings b ↔ Token.normal a = Token.normal b := by
    rw [render_eq_iff_layout, Layout.normal_eq_iff]
  refine ⟨readable, Text.normal_tokens, ?_, ?_⟩
  · intro s t same
    have alike := (readable s.tokens t.tokens).1 same
    rw [Text.normal_tokens, Text.normal_tokens] at alike
    exact ⟨alike, by rw [← Text.join_tokens s, alike, Text.join_tokens]⟩
  · intro s
    rw [highlight, unescape_withoutTags_render, Text.join_tokens, ending]

end ShaderLens.Markup
