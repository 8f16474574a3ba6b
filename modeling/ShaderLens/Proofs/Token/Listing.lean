import ShaderLens.Proofs.Line.Joining
import ShaderLens.Proofs.Text.Unquoting
import ShaderLens.Proofs.Token.Partition
import ShaderLens.Token.Listing

/-!
# Reading listings

A listing is read line by line (`Listing.read?`): the name of a kind up to the tab, and behind it a
quoted text. Neither of them holds a line feed, and no name holds a tab, so the tokens are found
again whatever is in their texts.
-/

namespace ShaderLens.Listing

/-- Reads the token of a line. -/
def token? (line : Text) : Option Token :=
  match line.dropWhile (· ≠ '\t') with
  | [] => none
  | _ :: field => do
      let kind ← TokenKind.ofName? (line.takeWhile (· ≠ '\t'))
      let text ← Quoted.unquote? field
      return ⟨kind, text⟩

/-- Reads a listing, whose last line has to be ended too. -/
def read? (listing : Text) : Option (List Token) :=
  let lines := listing.splitOn '\n'
  if lines.getLast? = some [] then lines.dropLast.mapM token? else none

/-- What stands on the line of a token. -/
def line (token : Token) : Text :=
  token.kind.name ++ '\t' :: Quoted.quote token.text

theorem render_cons (token : Token) (rest : List Token) :
    render (token :: rest) = line token ++ '\n' :: render rest := by
  simp [render, entry, line]

theorem name_plain (kind : TokenKind) : '\t' ∉ kind.name ∧ '\n' ∉ kind.name := by
  cases kind <;> decide +kernel

theorem line_feed_not_mem_line (token : Token) : '\n' ∉ line token := by
  have tab : '\n' ≠ '\t' := by decide
  rw [line, List.mem_append, List.mem_cons, not_or, not_or]
  exact ⟨(name_plain token.kind).2, tab, Quoted.line_feed_not_mem_quote token.text⟩

theorem token?_line (token : Token) : token? (line token) = some token := by
  have name : ∀ c ∈ token.kind.name, (c ≠ '\t' : Bool) = true := by
    intro c member
    have other : c ≠ '\t' := fun same => (name_plain token.kind).1 (same ▸ member)
    simpa using other
  rw [token?, line, List.dropWhile_append_of_pos name, List.takeWhile_append_of_pos name]
  simp [TokenKind.ofName?_name, Quoted.unquote?_quote]

/-- The lines of a listing are those of its tokens and an empty one. -/
theorem splitOn_render (tokens : List Token) :
    (render tokens).splitOn '\n' = tokens.map line ++ [[]] := by
  induction tokens with
  | nil => rfl
  | cons token rest ih =>
      have alone : (line token).splitOn '\n' = [line token] :=
        List.splitOn_eq_singleton (line_feed_not_mem_line token)
      rw [List.splitOn_eq_splitOnP] at alone ih ⊢
      rw [render_cons, List.splitOnP_append_cons _ _ rfl, alone, ih]
      rfl

theorem read?_render (tokens : List Token) : read? (render tokens) = some tokens := by
  have each : (tokens.map line).mapM token? = some tokens := by
    induction tokens with
    | nil => rfl
    | cons token rest ih => simp [token?_line, ih]
  simp only [read?, splitOn_render]
  simpa using each

theorem count_line_feed_render (tokens : List Token) :
    (render tokens).count '\n' = tokens.length := by
  induction tokens with
  | nil => rfl
  | cons token rest ih =>
      have own := List.count_eq_zero.2 (line_feed_not_mem_line token)
      rw [render_cons, List.count_append, List.count_cons_self, own, ih, List.length_cons,
        Nat.zero_add]

/-- **Listings can be read back.** A listing has one line for each token, and from these lines the
tokens are read again, whatever their texts are. So no two lists of tokens have the same listing,
and the listing of a text has the whole text in it. -/
theorem listing_readable :
    (∀ tokens, (render tokens).count '\n' = tokens.length ∧
      (render tokens).splitOn '\n' = tokens.map line ++ [[]] ∧
      read? (render tokens) = some tokens) ∧
    Function.Injective render ∧
    (∀ s : Text, (read? (render s.tokens)).map Token.join = some s) ∧
    ∀ s t : Text, render s.tokens = render t.tokens → s = t := by
  have injective : Function.Injective render := by
    intro a b same
    apply Option.some.inj
    rw [← read?_render a, same, read?_render b]
  refine ⟨?_, injective, ?_, ?_⟩
  · intro tokens
    exact ⟨count_line_feed_render tokens, splitOn_render tokens, read?_render tokens⟩
  · intro s
    rw [read?_render, Option.map_some, Text.join_tokens]
  · intro s t same
    rw [← Text.join_tokens s, injective same, Text.join_tokens]

end ShaderLens.Listing
