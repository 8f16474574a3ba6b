import ShaderLens.Proofs.Markup.Document
import ShaderLens.Proofs.Token.Layout

/-!
# Rendering writes a document

Tokens are rendered as a document (`render_eq`): the words of their layout are its elements, and the
blank text between the words is the text between the elements. Whatever the texts and the class
prefix are, they end up in the inert parts of the document, so the elements that are read back are
those of the words (`render_wellFormed`).
-/

namespace ShaderLens

open Markup

/-- The element of a token, whatever kind it has. -/
def Token.toElement (classPrefix : Text) (token : Token) : Element :=
  ⟨.ofText (classPrefix ++ token.kind.name), .ofText token.text⟩

def Layout.document (classPrefix : Text) (layout : Layout) : Document where
  lead := .ofText layout.lead
  items := layout.items.map fun item => (item.1.val.toElement classPrefix, .ofText item.2)

namespace Markup

theorem escape_name (kind : TokenKind) : escape kind.name = kind.name := by
  cases kind <;> decide +kernel

variable (settings : Settings) (tokens : List Token)

theorem element_eq_written (token : Token) :
    element settings token = (token.toElement settings.classPrefix).written := by
  unfold element Element.written
  simp [Token.toElement, InertText.ofText, escape_name]

theorem flatMap_piece :
    tokens.flatMap (piece settings) =
      ((Layout.ofTokens tokens).document settings.classPrefix).written := by
  induction tokens with
  | nil => rfl
  | cons token rest ih =>
      rw [List.flatMap_cons, ih, Layout.ofTokens_cons, piece]
      split
      · next blank =>
          rw [Layout.prepend_whitespace blank]
          simp [Layout.document, Document.written, InertText.ofText]
      · next solid =>
          rw [Layout.prepend_word solid, element_eq_written]
          simp [Layout.document, Document.written, Document.writtenItems, InertText.ofText]

theorem render_eq :
    render settings tokens =
      ((Layout.ofTokens tokens).document settings.classPrefix).written ++ ending settings := by
  rw [render, flatMap_piece]

theorem elements_document (classPrefix : Text) (layout : Layout) :
    (layout.document classPrefix).elements = layout.words.map (·.toElement classPrefix) := by
  simp [Layout.document, Document.elements, Layout.words, Function.comp_def]

/-- **Markup is well formed and nothing is injected.** Without its ending it is what one document is
written as, and no other. The elements of that document are those of the tokens other than
whitespace, each with the class and the text of its token, escaped. -/
theorem render_wellFormed (classPrefix : Text) (tokens : List Token) :
    ∃ document : Document,
      render ⟨classPrefix, false⟩ tokens = document.written ∧
      render ⟨classPrefix, true⟩ tokens = document.written ++ ['\n'] ∧
      (document.elements.map fun e => (e.className.val, e.content.val)) =
        ((tokens.filter (·.kind ≠ .whitespace)).map fun token =>
          (escape classPrefix ++ token.kind.name, escape token.text)) ∧
      ∀ other : Document, other.written = document.written → other = document := by
  refine ⟨(Layout.ofTokens tokens).document classPrefix, ?_, ?_, ?_, ?_⟩
  · rw [render_eq]
    exact List.append_nil _
  · rw [render_eq]
    rfl
  · rw [elements_document, Layout.words_ofTokens, List.map_map]
    simp [Function.comp_def, Token.toElement, InertText.ofText, escape_name]
  · exact fun other => Document.written_injective

end Markup

end ShaderLens
