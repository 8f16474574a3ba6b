import ShaderLens.Markup.Render

/-!
# Documents

A document is text with elements in it, none inside another. Its texts are inert by their type: to
markup they are characters and nothing else. Therefore what is written can be read in one way only
(`Document.written_injective`).
-/

namespace ShaderLens.Markup

/-- The spellings of characters that markup gives a meaning. -/
def entities : List Text :=
  ["&amp;".toList, "&lt;".toList, "&gt;".toList, "&quot;".toList, "&#39;".toList]

/-- The characters that are spelled so. -/
def special : List Char :=
  ['&', '<', '>', '"', '\x27']

theorem entities_eq : entities = special.map escapeChar := rfl

/-- The text has no character that delimits tags and attributes, and every ampersand in it begins
an entity. -/
structure Inert (t : Text) : Prop where
  undelimited : ∀ c ∈ ['<', '>', '"', '\x27'], c ∉ t
  ampersand : ∀ front rest, t = front ++ '&' :: rest → ∃ entity ∈ entities, entity <+: '&' :: rest

theorem inert_nil : Inert [] :=
  ⟨by simp, by simp⟩

theorem Inert.append {a b : Text} (ha : Inert a) (hb : Inert b) : Inert (a ++ b) where
  undelimited c member := by
    rw [List.mem_append, not_or]
    exact ⟨ha.undelimited c member, hb.undelimited c member⟩
  ampersand front rest same := by
    obtain ⟨more, rfl, later⟩ | ⟨more, rfl, later⟩ := List.append_eq_append_iff.1 same
    · exact hb.ampersand more rest later
    · cases more with
      | nil => exact hb.ampersand [] rest later.symm
      | cons c more =>
          obtain ⟨rfl, rfl⟩ := List.cons.inj later
          obtain ⟨entity, member, begins⟩ := ha.ampersand front more rfl
          exact ⟨entity, member, begins.trans (List.prefix_append ('&' :: more) b)⟩

theorem inert_singleton {c : Char} (plain : c ∉ special) : Inert [c] where
  undelimited d member := by
    rw [List.mem_singleton]
    rintro rfl
    exact plain (List.mem_cons_of_mem _ member)
  ampersand front rest same := by
    have here : '&' ∈ [c] := same ▸ List.mem_append_right front List.mem_cons_self
    rw [← List.mem_singleton.1 here] at plain
    exact absurd List.mem_cons_self plain

theorem inert_of_mem_entities {entity : Text} (member : entity ∈ entities) : Inert entity where
  undelimited := by
    have all : ∀ e ∈ entities, ∀ c ∈ ['<', '>', '"', '\x27'], c ∉ e := by simp [entities]
    exact all entity member
  ampersand front rest same := by
    have all : ∀ e ∈ entities, e = '&' :: e.tail ∧ '&' ∉ e.tail := by simp [entities]
    obtain ⟨begins, once⟩ := all entity member
    cases front with
    | nil => exact ⟨entity, member, same ▸ List.prefix_rfl⟩
    | cons d front =>
        have later := (List.cons.inj (begins.symm.trans same)).2
        exact absurd (later ▸ List.mem_append_right front List.mem_cons_self) once

theorem inert_escapeChar (c : Char) : Inert (escapeChar c) := by
  by_cases plain : c ∈ special
  · apply inert_of_mem_entities
    rw [entities_eq]
    exact List.mem_map_of_mem plain
  · have single : escapeChar c = [c] := by
      simp only [special, List.mem_cons, List.not_mem_nil, or_false, not_or] at plain
      simp [escapeChar, plain]
    rw [single]
    exact inert_singleton plain

theorem inert_escape (t : Text) : Inert (escape t) := by
  induction t with
  | nil => exact inert_nil
  | cons c rest ih => exact (inert_escapeChar c).append ih

/-- A text that markup reads as characters only. -/
def InertText := {t : Text // Inert t}

namespace InertText

/-- The inert spelling of any text. -/
def ofText (t : Text) : InertText :=
  ⟨escape t, inert_escape t⟩

theorem less_not_mem (t : InertText) : '<' ∉ t.val :=
  t.property.undelimited '<' (by simp)

theorem quote_not_mem (t : InertText) : '"' ∉ t.val :=
  t.property.undelimited '"' (by simp)

end InertText

/-- An element and the class it has. -/
structure Element where
  className : InertText
  content : InertText

def Element.written (e : Element) : Text :=
  "<span class=\"".toList ++ e.className.val ++ "\">".toList ++ e.content.val ++ "</span>".toList

/-- Elements, each with the text behind it. The text in front of the first one leads. -/
structure Document where
  lead : InertText
  items : List (Element × InertText)

namespace Document

def elements (d : Document) : List Element :=
  d.items.map (·.1)

def writtenItems (items : List (Element × InertText)) : Text :=
  items.flatMap fun item => item.1.written ++ item.2.val

def written (d : Document) : Text :=
  d.lead.val ++ writtenItems d.items

end Document

/-- A character divides a text at its first place. -/
theorem eq_of_append_cons_eq {c : Char} {a a' b b' : Text} (h : c ∉ a) (h' : c ∉ a')
    (same : a ++ c :: b = a' ++ c :: b') : a = a' ∧ b = b' := by
  obtain ⟨more, rfl, later⟩ | ⟨more, rfl, later⟩ := List.append_eq_append_iff.1 same
  · cases more with
    | nil => simpa using later
    | cons d more =>
        obtain ⟨rfl, _⟩ := List.cons.inj later
        simp at h'
  · cases more with
    | nil => simpa [eq_comm] using later
    | cons d more =>
        obtain ⟨rfl, _⟩ := List.cons.inj later
        simp at h

/-- The marks of an element, each with the character that shows where it begins. -/
theorem Element.written_append (e : Element) (rest : Text) :
    e.written ++ rest = '<' :: ("span class=\"".toList ++ (e.className.val ++ '"' :: '>' ::
      (e.content.val ++ '<' :: ("/span>".toList ++ rest)))) := by
  unfold written
  simp

/-- Where an element begins and where it ends is seen from what is written. -/
theorem Element.written_append_inj {e e' : Element} {rest rest' : Text}
    (same : e.written ++ rest = e'.written ++ rest') : e = e' ∧ rest = rest' := by
  rw [written_append, written_append] at same
  rw [List.cons.injEq, List.append_cancel_left_eq] at same
  obtain ⟨className, inner⟩ :=
    eq_of_append_cons_eq e.className.quote_not_mem e'.className.quote_not_mem same.2
  rw [List.cons.injEq] at inner
  obtain ⟨content, closed⟩ :=
    eq_of_append_cons_eq e.content.less_not_mem e'.content.less_not_mem inner.2
  cases e
  cases e'
  exact ⟨congr (congrArg Element.mk (Subtype.ext className)) (Subtype.ext content),
    List.append_cancel_left closed⟩

namespace Document

theorem writtenItems_cons (item : Element × InertText) (more : List (Element × InertText)) :
    writtenItems (item :: more) = item.1.written ++ (item.2.val ++ writtenItems more) := by
  rw [writtenItems, List.flatMap_cons, List.append_assoc, writtenItems]

theorem less_mem_writtenItems_cons (item : Element × InertText)
    (more : List (Element × InertText)) : '<' ∈ writtenItems (item :: more) := by
  rw [writtenItems_cons, Element.written_append]
  exact List.mem_cons_self

theorem append_writtenItems_inj {a b : InertText} {items others : List (Element × InertText)}
    (same : a.val ++ writtenItems items = b.val ++ writtenItems others) :
    a = b ∧ items = others := by
  induction items generalizing a b others with
  | nil =>
      have plain : a.val = b.val ++ writtenItems others := by simpa [writtenItems] using same
      cases others with
      | nil => exact ⟨Subtype.ext (by simpa [writtenItems] using plain), rfl⟩
      | cons other others =>
          have inside := List.mem_append_right b.val (less_mem_writtenItems_cons other others)
          exact absurd (plain ▸ inside) a.less_not_mem
  | cons item more ih =>
      cases others with
      | nil =>
          have plain : b.val = a.val ++ writtenItems (item :: more) := by
            simpa [writtenItems] using same.symm
          have inside := List.mem_append_right a.val (less_mem_writtenItems_cons item more)
          exact absurd (plain ▸ inside) b.less_not_mem
      | cons other others =>
          rw [writtenItems_cons, writtenItems_cons] at same
          -- both leads end at the first delimiter, which the elements begin with
          have begun := same
          rw [Element.written_append, Element.written_append] at begun
          obtain rfl : a = b :=
            Subtype.ext (eq_of_append_cons_eq a.less_not_mem b.less_not_mem begun).1
          obtain ⟨element, later⟩ := Element.written_append_inj (List.append_cancel_left same)
          obtain ⟨run, rfl⟩ := ih later
          exact ⟨rfl, by rw [Prod.ext element run]⟩

/-- No two documents are written alike. -/
theorem written_injective {a b : Document} (same : a.written = b.written) : a = b := by
  obtain ⟨lead, items⟩ := append_writtenItems_inj same
  cases a
  cases b
  exact congr (congrArg Document.mk lead) items

end Document

end ShaderLens.Markup
