import Mathlib.Data.List.Induction
import ShaderLens.Proofs.Token.Partition

/-!
# Walks of a cursor

A cursor can be asked for tokens in several ways (`Request`), one after the other. It walks along
the list of tokens like an index into it (`Request.lookUp`): where the index is, there the cursor
stands (`Cursor.after_start`), and both of them give the same answers (`Cursor.answer_before`). The
bytes that the cursor has passed are those of the tokens in front of the index.
-/

namespace ShaderLens

/-- What a cursor can be asked for. -/
inductive Request
  | next
  /-- The token behind so many others, which are passed over. -/
  | skip (count : Nat)
  /-- All tokens that are left. -/
  | drain
  /-- How many tokens are left; they are passed over too. -/
  | count
  deriving DecidableEq, Repr

inductive Answer
  | token (token : Option Token)
  | tokens (tokens : List Token)
  | number (count : Nat)
  deriving DecidableEq, Repr

namespace Request

/-- The answer at an index of a list of tokens, and the index behind the tokens that it used up. -/
def lookUp (tokens : List Token) (index : Nat) : Request → Answer × Nat
  | next => (.token tokens[index]?, min (index + 1) tokens.length)
  | skip n => (.token tokens[index + n]?, min (index + n + 1) tokens.length)
  | drain => (.tokens (tokens.drop index), tokens.length)
  | count => (.number (tokens.length - index), tokens.length)

/-- The index after some requests, the first of them at the beginning of the list. -/
def indexAfter (tokens : List Token) (requests : List Request) : Nat :=
  requests.foldl (fun index request => (request.lookUp tokens index).2) 0

/-- The answer where no token is left. -/
def nothing : Request → Answer
  | next => .token none
  | skip _ => .token none
  | drain => .tokens []
  | count => .number 0

variable (tokens : List Token) (requests : List Request) (request : Request)

theorem lookUp_index_le (index : Nat) : (request.lookUp tokens index).2 ≤ tokens.length := by
  cases request with
  | next | skip n => exact Nat.min_le_right _ _
  | drain | count => exact Nat.le_refl _

theorem le_lookUp_index {index : Nat} (inside : index ≤ tokens.length) :
    index ≤ (request.lookUp tokens index).2 := by
  cases request with
  | next => exact Nat.le_min.2 ⟨by omega, inside⟩
  | skip n => exact Nat.le_min.2 ⟨by omega, inside⟩
  | drain | count => exact inside

theorem lookUp_length :
    request.lookUp tokens tokens.length = (request.nothing, tokens.length) := by
  cases request with
  | next => simp [lookUp, nothing]
  | skip n => simp [lookUp, nothing, Nat.add_assoc]
  | drain => simp [lookUp, nothing]
  | count => simp [lookUp, nothing]

theorem indexAfter_concat :
    indexAfter tokens (requests ++ [request]) =
      (request.lookUp tokens (indexAfter tokens requests)).2 := by
  simp [indexAfter]

theorem indexAfter_le : indexAfter tokens requests ≤ tokens.length := by
  induction requests using List.reverseRecOn with
  | nil => exact Nat.zero_le _
  | append_singleton earlier last _ =>
      rw [indexAfter_concat]
      exact lookUp_index_le tokens last _

end Request

namespace Text

theorem length_le_byteLength_join {tokens : List Token}
    (nonempty : ∀ token ∈ tokens, token.text ≠ []) :
    tokens.length ≤ byteLength (Token.join tokens) := by
  induction tokens with
  | nil => simp
  | cons token rest ih =>
      have later : rest.length ≤ byteLength (Token.join rest) := by
        apply ih
        intro token member
        exact nonempty token (List.mem_cons_of_mem _ member)
      obtain ⟨c, more, text⟩ := List.exists_cons_of_ne_nil (nonempty token List.mem_cons_self)
      have positive := c.utf8Size_pos
      simp only [List.length_cons, Token.join_cons, text, byteLength_append, byteLength_cons]
      omega

/-- Every token has at least one byte, so a later place is farther on by at least as many bytes as
there are tokens between. -/
theorem offset_add_le (s : Text) {i j : Nat} (order : i ≤ j) (inside : j ≤ s.tokens.length) :
    s.offset i + (j - i) ≤ s.offset j := by
  have between : ((s.tokens.take j).drop i).length = j - i := by
    rw [List.length_drop, List.length_take_of_le inside]
  have parts : s.tokens.take j = s.tokens.take i ++ (s.tokens.take j).drop i := by
    have front : (s.tokens.take j).take i = s.tokens.take i := by
      rw [List.take_take, Nat.min_eq_left order]
    rw [← front, List.take_append_drop]
  have nonempty : ∀ token ∈ (s.tokens.take j).drop i, token.text ≠ [] := by
    intro token member
    exact text_ne_nil_of_mem_tokens (List.mem_of_mem_take (List.mem_of_mem_drop member))
  have bytes := length_le_byteLength_join nonempty
  rw [offset, offset, parts, Token.join_append, byteLength_append]
  omega

theorem offset_add_byteLength_after (s : Text) (k : Nat) :
    s.offset k + (s.after k).byteLength = s.byteLength := by
  rw [offset, ← byteLength_append, join_take_append_after]

theorem offset_length (s : Text) : s.offset s.tokens.length = s.byteLength := by
  rw [offset, List.take_length, join_tokens]

end Text

namespace Cursor

/-- What a cursor answers, and the cursor afterwards. -/
def answer (cursor : Cursor) : Request → Answer × Cursor
  | .next => (.token cursor.next.1, cursor.next.2)
  | .skip n => (.token (cursor.skip n).1, (cursor.skip n).2)
  | .drain => (.tokens cursor.drain.1, cursor.drain.2)
  | .count => (.number cursor.count.1, cursor.count.2)

/-- The cursor after some requests. -/
def afterRequests (cursor : Cursor) (requests : List Request) : Cursor :=
  requests.foldl (fun cursor request => (cursor.answer request).2) cursor

variable (s : Text) (k : Nat)

/-- There is no place behind the last token. -/
theorem before_min : before s (min k s.tokens.length) = before s k := by
  obtain inside | past := Nat.le_total k s.tokens.length
  · rw [Nat.min_eq_left inside]
  · simp only [before, Text.offset, Text.after, Nat.min_eq_right past, List.take_length,
      List.take_of_length_le past]

theorem before_length : before s s.tokens.length = ⟨s.byteLength, []⟩ := by
  rw [before, Text.offset_length, Text.after_eq_join_drop, List.drop_length, Token.join_nil]

theorem skip_before (n : Nat) :
    skip n (before s k) = (s.tokens[k + n]?, before s (k + n + 1)) := by
  induction n generalizing k with
  | zero => exact next_before s k
  | succ n ih =>
      rw [skip, next_before]
      cases here : s.tokens[k]? with
      | none =>
          have past := List.getElem?_eq_none_iff.1 here
          have end_eq (more : Nat) : before s (k + more) = before s s.tokens.length := by
            rw [← before_min, Nat.min_eq_right (by omega)]
          rw [List.getElem?_eq_none (by omega), end_eq 1, Nat.add_assoc, end_eq]
      | some token =>
          change skip n (before s (k + 1)) = _
          rw [ih, Nat.add_right_comm k 1 n, Nat.add_assoc k n 1]

theorem drain_before : (before s k).drain = (s.tokens.drop k, before s s.tokens.length) := by
  rw [before, drain_eq, Text.tokens_after, Text.offset_add_byteLength_after, before_length]

/-- In front of a token a cursor answers as an index in the list of tokens does, and goes on to
where the index goes. -/
theorem answer_before (request : Request) :
    (before s k).answer request =
      ((request.lookUp s.tokens k).1, before s (request.lookUp s.tokens k).2) := by
  cases request with
  | next => simp only [answer, Request.lookUp, next_before, before_min]
  | skip n => simp only [answer, Request.lookUp, skip_before, before_min]
  | drain => simp only [answer, Request.lookUp, drain_before]
  | count => simp only [answer, Request.lookUp, count, drain_before, List.length_drop]

/-- After any requests a cursor stands where the index has come to. -/
theorem after_start (requests : List Request) :
    (start s).afterRequests requests = before s (Request.indexAfter s.tokens requests) := by
  induction requests using List.reverseRecOn with
  | nil => exact advance_start s 0
  | append_singleton earlier last ih =>
      have step : (start s).afterRequests (earlier ++ [last]) =
          (((start s).afterRequests earlier).answer last).2 := by
        simp [afterRequests]
      rw [step, ih, answer_before, Request.indexAfter_concat]

end Cursor

/-- **A cursor walks along the list of tokens.** Whatever has been asked of it, it has used up the
tokens in front of an index and passed the bytes of their texts. The next request is answered as
the list answers it there, and the cursor goes on to where the index goes, by one byte at least for
each token that this uses up. It never passes the end of the text: where no bytes are left it
answers with nothing and stays. -/
theorem cursor_walks_along_tokens (s : Text) (earlier : List Request) (request : Request) :
    let passed (index : Nat) := Text.byteLength (Token.join (s.tokens.take index))
    let index := Request.indexAfter s.tokens earlier
    let found := request.lookUp s.tokens index
    let cursor := (Cursor.start s).afterRequests earlier
    let answered := cursor.answer request
    cursor.position = passed index ∧ answered.1 = found.1 ∧ answered.2.position = passed found.2 ∧
    index ≤ found.2 ∧ found.2 ≤ s.tokens.length ∧
    cursor.position + (found.2 - index) ≤ answered.2.position ∧
    answered.2.position ≤ s.byteLength ∧
    (cursor.position < s.byteLength ∨ answered = (request.nothing, cursor)) := by
  intro passed index found cursor answered
  have stands : cursor = Cursor.before s index := Cursor.after_start s earlier
  have answers : answered = (found.1, Cursor.before s found.2) := by
    rw [← Cursor.answer_before, ← stands]
  have inside : index ≤ s.tokens.length := Request.indexAfter_le s.tokens earlier
  have ahead : index ≤ found.2 := Request.le_lookUp_index s.tokens request inside
  have inside' : found.2 ≤ s.tokens.length := Request.lookUp_index_le s.tokens request index
  have left (k : Nat) (within : k ≤ s.tokens.length) :
      s.offset k + (s.tokens.length - k) ≤ s.byteLength := by
    rw [← Text.offset_length s]
    exact Text.offset_add_le s within (Nat.le_refl _)
  rw [answers, stands]
  refine ⟨rfl, rfl, rfl, ahead, inside', Text.offset_add_le s ahead inside', ?_, ?_⟩
  · exact Nat.le_trans (Nat.le_add_right _ _) (left found.2 inside')
  · obtain more | past := Nat.lt_or_ge index s.tokens.length
    · left
      have bytes := left index inside
      change s.offset index < s.byteLength
      omega
    · right
      have last : index = s.tokens.length := Nat.le_antisymm inside past
      have nothingLeft : found = (request.nothing, index) := by
        change request.lookUp s.tokens index = (request.nothing, index)
        rw [last, Request.lookUp_length]
      rw [nothingLeft]

/-- Positions are those of bytes: the first character has two of them. -/
example : (Cursor.start "é x".toList).skip 1 =
    (some ⟨.whitespace, " ".toList⟩, ⟨3, "x".toList⟩) := by
  decide +kernel

end ShaderLens
