import ShaderLens.Text.Utf8
import ShaderLens.Token.Cursor

/-!
# Tokens divide the text

The texts of the tokens, put together again, are the text (`join_tokens`). So each token has its
place in it: `Text.after` is what is left behind the first `k` tokens, and `Text.offset` the number
of bytes in front of them. Lexing can go on from any of these places (`tokens_after`), and a cursor
stands at them one after the other (`advance_start`).
-/

namespace ShaderLens

namespace Token

@[simp] theorem join_nil : join [] = [] := rfl

@[simp] theorem join_cons (token : Token) (rest : List Token) :
    join (token :: rest) = token.text ++ join rest := rfl

@[simp] theorem join_append (a b : List Token) : join (a ++ b) = join a ++ join b := by
  simp [join]

end Token

namespace Text

theorem join_tokens (t : Text) : Token.join t.tokens = t := by
  induction t using tokens.induct with
  | case1 => simp
  | case2 c rest ih => rw [tokens_cons, Token.join_cons, ih, Token.first_append]

theorem text_ne_nil_of_mem_tokens {t : Text} {token : Token} (h : token ∈ t.tokens) :
    token.text ≠ [] := by
  induction t using tokens.induct with
  | case1 => simp at h
  | case2 c rest ih =>
      rw [tokens_cons, List.mem_cons] at h
      obtain rfl | later := h
      · exact Token.first_text_ne_nil c rest
      · exact ih later

theorem tokens_eq_nil_iff (t : Text) : t.tokens = [] ↔ t = [] := by
  cases t with
  | nil => simp
  | cons c rest => simp [tokens_cons]

/-- What is left of a text behind its first `k` tokens. -/
def after (t : Text) (k : Nat) : Text :=
  t.drop (Token.join (t.tokens.take k)).length

/-- The number of bytes in front of the token with index `k`. -/
def offset (t : Text) (k : Nat) : Nat :=
  byteLength (Token.join (t.tokens.take k))

theorem join_take_append_join_drop (t : Text) (k : Nat) :
    Token.join (t.tokens.take k) ++ Token.join (t.tokens.drop k) = t := by
  rw [← Token.join_append, List.take_append_drop, join_tokens]

theorem after_eq_join_drop (t : Text) (k : Nat) : t.after k = Token.join (t.tokens.drop k) := by
  have whole := join_take_append_join_drop t k
  calc
    t.after k = (Token.join (t.tokens.take k) ++ Token.join (t.tokens.drop k)).drop
        (Token.join (t.tokens.take k)).length := by rw [whole, after]
    _ = Token.join (t.tokens.drop k) := List.drop_left

theorem join_take_append_after (t : Text) (k : Nat) :
    Token.join (t.tokens.take k) ++ t.after k = t := by
  rw [after_eq_join_drop, join_take_append_join_drop]

@[simp] theorem after_zero (t : Text) : t.after 0 = t := by
  simp [after]

theorem after_succ_cons (c : Char) (rest : Text) (k : Nat) :
    after (c :: rest) (k + 1) = (Token.first c rest).2.after k := by
  rw [after_eq_join_drop, after_eq_join_drop, tokens_cons, List.drop_succ_cons]

/-- Lexing what is left behind some tokens gives the tokens that are left. -/
theorem tokens_after (t : Text) (k : Nat) : (t.after k).tokens = t.tokens.drop k := by
  induction t using tokens.induct generalizing k with
  | case1 => simp [after]
  | case2 c rest ih =>
      cases k with
      | zero => simp
      | succ k => rw [after_succ_cons, ih k, tokens_cons, List.drop_succ_cons]

/-! ## Places in the bytes of a text -/

theorem byteLength_eq_utf8ByteSize (t : Text) : byteLength t = (String.ofList t).utf8ByteSize := by
  rw [← size_utf8, utf8, String.size_toByteArray]

/-- In front of every token a character begins. -/
theorem offset_isValid (t : Text) (k : Nat) :
    String.Pos.Raw.IsValid (String.ofList t) ⟨t.offset k⟩ := by
  have front : t.take (Token.join (t.tokens.take k)).length = Token.join (t.tokens.take k) := by
    have whole := join_take_append_join_drop t k
    exact List.prefix_iff_eq_take.1 ⟨_, whole⟩ |>.symm
  rw [String.Pos.Raw.isValid_ofList]
  exact ⟨_, by rw [front, offset, byteLength_eq_utf8ByteSize]⟩

theorem utf8_append (a b : Text) : utf8 (a ++ b) = utf8 a ++ utf8 b := by
  rw [utf8, String.ofList_append, String.toByteArray_append]
  rfl

/-- The bytes of a part of a text lie where the bytes in front of it end. -/
theorem extract_utf8 (a b c : Text) :
    (utf8 (a ++ b ++ c)).extract (byteLength a) (byteLength a + byteLength b) = utf8 b := by
  have inner : (utf8 (a ++ b)).extract (byteLength a) (byteLength a + byteLength b) = utf8 b := by
    rw [utf8_append]
    exact ByteArray.extract_append_eq_right (size_utf8 a).symm (by rw [size_utf8, size_utf8])
  rw [utf8_append (a ++ b), ByteArray.extract_append, inner]
  simp [size_utf8]

theorem offset_succ (t : Text) (k : Nat) :
    t.offset (k + 1) = t.offset k + byteLength (Token.join t.tokens[k]?.toList) := by
  rw [offset, List.take_add_one, Token.join_append, byteLength_append, offset]

/-- The bytes between two neighbouring places are those of the token between them. -/
theorem extract_offset (t : Text) (k : Nat) :
    t.utf8.extract (t.offset k) (t.offset (k + 1)) = utf8 (Token.join t.tokens[k]?.toList) := by
  have parts : Token.join (t.tokens.take k) ++ Token.join t.tokens[k]?.toList ++ t.after (k + 1) =
      t := by
    rw [← Token.join_append, ← List.take_add_one, join_take_append_after]
  have cut := extract_utf8 (Token.join (t.tokens.take k)) (Token.join t.tokens[k]?.toList)
    (t.after (k + 1))
  rwa [parts, ← offset, ← offset_succ] at cut

end Text

namespace Cursor

/-- The cursor after `k` readings. -/
def advance (cursor : Cursor) : Nat → Cursor
  | 0 => cursor
  | k + 1 => (cursor.advance k).next.2

/-- The cursor in front of the token with index `k`. -/
def before (t : Text) (k : Nat) : Cursor :=
  ⟨t.offset k, t.after k⟩

theorem next_before (t : Text) (k : Nat) :
    (before t k).next = (t.tokens[k]?, before t (k + 1)) := by
  have left := Text.tokens_after t k
  cases rest : t.after k with
  | nil =>
      have past : t.tokens.length ≤ k := by simpa [rest] using left.symm
      have same : before t (k + 1) = before t k := by
        simp only [before, Text.offset, Text.after, List.take_of_length_le past,
          List.take_of_length_le (Nat.le_succ_of_le past)]
      rw [same, List.getElem?_eq_none past, next]
      simp [before, rest]
  | cons c more =>
      rw [rest, Text.tokens_cons] at left
      have here : t.tokens[k]? = some (Token.first c more).1 := by
        rw [← List.head?_drop, ← left, List.head?_cons]
      have next_after : t.after (k + 1) = (Token.first c more).2 := by
        rw [Text.after_eq_join_drop, ← List.tail_drop, ← left, List.tail_cons, Text.join_tokens]
      simp [before, next, rest, here, next_after, Text.offset_succ]

theorem advance_start (t : Text) (k : Nat) : (start t).advance k = before t k := by
  induction k with
  | zero => simp [advance, start, before, Text.offset]
  | succ k ih => rw [advance, ih, next_before]

/-- Reading on to the end reads all tokens and passes all bytes. -/
theorem drain_eq (position : Nat) (t : Text) :
    drain ⟨position, t⟩ = (t.tokens, ⟨position + t.byteLength, []⟩) := by
  induction t using Text.tokens.induct generalizing position with
  | case1 => rw [drain]; simp [next]
  | case2 c rest ih =>
      have bytes := congrArg Text.byteLength (Token.first_append c rest)
      rw [Text.byteLength_append] at bytes
      rw [drain]
      simp only [next, ih, Text.tokens_cons, ← bytes, Nat.add_assoc]

end Cursor

/-- **Cutting a text into tokens loses nothing.** Reading tokens from the start ends behind the
last byte. Every token has a text, the texts together are the source, and each reading starts where
a character begins and takes just the bytes of its token. -/
theorem tokens_partition (s : Text) :
    (Cursor.start s).drain = (s.tokens, ⟨s.byteLength, []⟩) ∧
    (∀ token ∈ s.tokens, token.text ≠ []) ∧ Token.join s.tokens = s ∧ (s.tokens = [] ↔ s = []) ∧
    ∀ k, let cursor := (Cursor.start s).advance k
      cursor.next.1 = s.tokens[k]? ∧
      String.Pos.Raw.IsValid (String.ofList s) ⟨cursor.position⟩ ∧
      Text.ofUtf8? (s.utf8.extract cursor.position cursor.next.2.position) =
        some (Token.join s.tokens[k]?.toList) := by
  refine ⟨?_, fun _ => Text.text_ne_nil_of_mem_tokens, Text.join_tokens s,
    Text.tokens_eq_nil_iff s, fun k => ?_⟩
  · rw [Cursor.start, Cursor.drain_eq, Nat.zero_add]
  · simp only [Cursor.advance_start, Cursor.next_before]
    refine ⟨trivial, Text.offset_isValid s k, ?_⟩
    rw [Cursor.before, Cursor.before, Text.extract_offset, Text.ofUtf8?_utf8]

end ShaderLens
