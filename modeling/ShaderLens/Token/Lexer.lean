import ShaderLens.Token.Lexeme

/-!
# From text to tokens

A text is lexed by taking tokens off its front until nothing is left. Every character opens
something, so this never fails, and since each token takes at least one character it ends.
-/

namespace ShaderLens

namespace Token

/-- The first token of the text `c :: rest`, and the text after it. -/
def first (c : Char) (rest : Text) : Token × Text :=
  let opening := Opening.of c rest
  let tail := opening.tail rest
  let lexeme := c :: tail.taken
  (⟨opening.kind lexeme, lexeme⟩, tail.rest)

theorem first_append (c : Char) (rest : Text) :
    (first c rest).1.text ++ (first c rest).2 = c :: rest := by
  have cut := Opening.splits_tail (Opening.of c rest) rest
  rw [Cut.Splits] at cut
  simp [first, cut]

theorem first_text_ne_nil (c : Char) (rest : Text) : (first c rest).1.text ≠ [] := by
  simp [first]

theorem length_first_rest_le (c : Char) (rest : Text) :
    (first c rest).2.length ≤ rest.length :=
  (Opening.splits_tail _ rest).length_rest_le

/-- The first token is as long as its opening reaches. -/
theorem byteLength_first (c : Char) (rest : Text) :
    (first c rest).1.text.byteLength = (Opening.of c rest).extent (c :: rest) :=
  (if_pos rfl).symm

end Token

namespace Text

/-- The tokens of a text. -/
def tokens : Text → List Token
  | [] => []
  | c :: rest => (Token.first c rest).1 :: tokens (Token.first c rest).2
termination_by t => t.length
decreasing_by exact Nat.lt_succ_of_le (Token.length_first_rest_le c rest)

@[simp] theorem tokens_nil : tokens [] = [] := by
  rw [tokens]

theorem tokens_cons (c : Char) (rest : Text) :
    tokens (c :: rest) = (Token.first c rest).1 :: tokens (Token.first c rest).2 := by
  rw [tokens]

end Text

end ShaderLens
