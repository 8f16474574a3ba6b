import ShaderLens.Token.Lexer

/-!
# Token cursors

A cursor reads the tokens of a text one after the other and knows how many bytes of the text it
has passed. At the end of the text it stays where it is.
-/

namespace ShaderLens

structure Cursor where
  /-- The bytes read so far. -/
  position : Nat
  /-- The text not read yet. -/
  rest : Text
  deriving DecidableEq, Repr

namespace Cursor

/-- The cursor at the beginning of a text. -/
def start (t : Text) : Cursor :=
  ⟨0, t⟩

/-- Reads the next token, if there is one. -/
def next (cursor : Cursor) : Option Token × Cursor :=
  match cursor.rest with
  | [] => (none, cursor)
  | c :: rest =>
      let first := Token.first c rest
      (some first.1, ⟨cursor.position + first.1.text.byteLength, first.2⟩)

/-- Passes over `n` tokens and reads the one after them; the end of the text stops it early. -/
def skip : Nat → Cursor → Option Token × Cursor
  | 0, cursor => cursor.next
  | n + 1, cursor =>
      match cursor.next with
      | (none, after) => (none, after)
      | (some _, after) => skip n after

theorem length_next_rest_lt {cursor after : Cursor} {token : Token}
    (h : cursor.next = (some token, after)) : after.rest.length < cursor.rest.length := by
  rw [next] at h
  split at h
  · simp at h
  · next c rest at_char =>
      simp only [Prod.mk.injEq] at h
      rw [← h.2, at_char]
      exact Nat.lt_succ_of_le (Token.length_first_rest_le c rest)

/-- Reads all tokens that are left. -/
def drain (cursor : Cursor) : List Token × Cursor :=
  match _ : cursor.next with
  | (none, after) => ([], after)
  | (some token, after) =>
      let drained := after.drain
      (token :: drained.1, drained.2)
termination_by cursor.rest.length
decreasing_by exact length_next_rest_lt ‹_›

/-- Reads all tokens that are left and counts them. -/
def count (cursor : Cursor) : Nat × Cursor :=
  let drained := cursor.drain
  (drained.1.length, drained.2)

end Cursor

end ShaderLens
