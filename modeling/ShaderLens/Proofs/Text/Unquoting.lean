import Mathlib.Data.List.Basic
import ShaderLens.Text.Quoted

/-!
# Reading quoted texts

A quoted text is read back one character at a time (`Quoted.next?`): a backslash and what follows it
up to the closing brace, or the character itself. The reader knows nothing of which characters are
unprintable, it takes both spellings of all of them. It never takes a part of an escape for another
one, so it finds the closing quote where it was put (`unquote?_quote`). No character of a quoted
text is a line feed (`line_feed_not_mem_quote`).
-/

namespace ShaderLens

namespace Hexadecimal

/-- The number that a digit stands for. -/
def value? (c : Char) : Option Nat :=
  if '0' ≤ c ∧ c ≤ '9' then some (c.toNat - '0'.toNat)
  else if 'a' ≤ c ∧ c ≤ 'f' then some (c.toNat - 'a'.toNat + 10)
  else none

/-- The number that digits stand for, the first of which is worth most. -/
def number? (digits : Text) : Option Nat :=
  if digits = [] then none
  else digits.foldlM (fun n c => (value? c).map (16 * n + ·)) 0

theorem value?_digit {n : Nat} (small : n < 16) : value? (digit n) = some n := by
  revert n
  decide

theorem digit_ne {n : Nat} (small : n < 16) : digit n ≠ '}' ∧ digit n ≠ '\n' := by
  revert n
  decide

theorem exists_digit_of_mem_numeral {n : Nat} {c : Char} (member : c ∈ numeral n) :
    ∃ k < 16, c = digit k := by
  induction n using numeral.induct with
  | case1 n small =>
      rw [numeral, if_pos small, List.mem_singleton] at member
      exact ⟨n, small, member⟩
  | case2 n large ih =>
      rw [numeral, if_neg large, List.mem_append, List.mem_singleton] at member
      obtain front | last := member
      · exact ih front
      · exact ⟨n % 16, Nat.mod_lt n (by omega), last⟩

theorem foldlM_numeral (n : Nat) :
    (numeral n).foldlM (fun n c => (value? c).map (16 * n + ·)) 0 = some n := by
  induction n using numeral.induct with
  | case1 n small =>
      rw [numeral, if_pos small]
      simp [value?_digit small]
  | case2 n large ih =>
      have last : n % 16 < 16 := Nat.mod_lt n (by omega)
      have whole : 16 * (n / 16) + n % 16 = n := Nat.div_add_mod n 16
      rw [numeral, if_neg large, List.foldlM_append, ih]
      simp [value?_digit last, whole]

theorem number?_numeral (n : Nat) : number? (numeral n) = some n := by
  rw [number?, if_neg (numeral_ne_nil n), foldlM_numeral]

end Hexadecimal

namespace Quoted

/-- The character that a letter behind a backslash stands for. -/
def short? (c : Char) : Option Char :=
  if c = 't' then some '\t'
  else if c = 'n' then some '\n'
  else if c = 'r' then some '\r'
  else if c = '0' then some '\x00'
  else if c = '"' ∨ c = '\\' then some c
  else none

/-- The character with a code point. -/
def ofCodePoint? (n : Nat) : Option Char :=
  if n.isValidChar then some (Char.ofNat n) else none

/-- Reads what is behind a backslash: a character, and the text after it. -/
def masked? : Text → Option (Char × Text)
  | 'u' :: '{' :: rest =>
      match rest.dropWhile (· ≠ '}') with
      | [] => none
      | _ :: later =>
          ((Hexadecimal.number? (rest.takeWhile (· ≠ '}'))).bind ofCodePoint?).map (·, later)
  | c :: rest => (short? c).map (·, rest)
  | [] => none

/-- Reads the first character of quoted text, unless the closing quote comes there. -/
def next? : Text → Option (Char × Text)
  | [] => none
  | c :: rest =>
      if c = '\\' then masked? rest
      else if c = '"' then none
      else some (c, rest)

theorem length_of_masked? {t rest : Text} {c : Char} (read : masked? t = some (c, rest)) :
    rest.length < t.length := by
  unfold masked? at read
  split at read
  · next digits =>
      split at read
      · cases read
      · next brace later found =>
          have shorter := (List.dropWhile_sublist (l := digits) (· ≠ '}')).length_le
          simp only [Option.map_eq_some_iff] at read
          obtain ⟨_, _, same⟩ := read
          obtain ⟨-, rfl⟩ := Prod.mk.inj same
          rw [found, List.length_cons] at shorter
          simp only [List.length_cons]
          omega
  · simp only [Option.map_eq_some_iff] at read
    obtain ⟨_, _, same⟩ := read
    obtain ⟨-, rfl⟩ := Prod.mk.inj same
    simp
  · cases read

theorem length_of_next? {t rest : Text} {c : Char} (read : next? t = some (c, rest)) :
    rest.length < t.length := by
  cases t with
  | nil => cases read
  | cons d later =>
      rw [next?] at read
      by_cases mask : d = '\\'
      · rw [if_pos mask] at read
        exact Nat.lt_succ_of_lt (length_of_masked? read)
      · rw [if_neg mask] at read
        by_cases quote : d = '"'
        · rw [if_pos quote] at read
          cases read
        · rw [if_neg quote] at read
          cases read
          simp

/-- Reads quoted text to its end, where the closing quote has to be. -/
def body? (t : Text) : Option Text :=
  match _read : next? t with
  | some (c, rest) => (body? rest).map (c :: ·)
  | none => if t = ['"'] then some [] else none
termination_by t.length
decreasing_by exact length_of_next? _read

/-- Reads a quoted text. -/
def unquote? : Text → Option Text
  | [] => none
  | c :: rest => if c = '"' then body? rest else none

theorem ofCodePoint?_toNat (c : Char) : ofCodePoint? c.toNat = some c := by
  have valid : c.toNat.isValidChar := c.valid
  rw [ofCodePoint?, if_pos valid, Char.ofNat_toNat]

theorem masked?_numeral (c : Char) (rest : Text) :
    masked? ('u' :: '{' :: (Hexadecimal.numeral c.toNat ++ '}' :: rest)) = some (c, rest) := by
  have digits : ∀ d ∈ Hexadecimal.numeral c.toNat, (d ≠ '}' : Bool) = true := by
    intro d member
    obtain ⟨k, small, rfl⟩ := Hexadecimal.exists_digit_of_mem_numeral member
    simpa using (Hexadecimal.digit_ne small).1
  rw [masked?, List.dropWhile_append_of_pos digits, List.takeWhile_append_of_pos digits]
  simp [Hexadecimal.number?_numeral, ofCodePoint?_toNat]

/-- However a character is written, it is read back, and reading goes on right behind it. -/
theorem next?_escapeChar_append (c : Char) (rest : Text) :
    next? (escapeChar c ++ rest) = some (c, rest) := by
  unfold escapeChar
  split_ifs with tab feed back null quote mask unprintable
  · subst tab
    rfl
  · subst feed
    rfl
  · subst back
    rfl
  · subst null
    rfl
  · subst quote
    rfl
  · subst mask
    rfl
  · have read := masked?_numeral c rest
    simpa [next?] using read
  · simp [next?, quote, mask]

theorem body?_escape (t : Text) : body? (t.flatMap escapeChar ++ ['"']) = some t := by
  induction t with
  | nil =>
      rw [List.flatMap_nil, List.nil_append, body?]
      rfl
  | cons c t ih =>
      rw [List.flatMap_cons, List.append_assoc, body?]
      split
      · next d rest read =>
          rw [next?_escapeChar_append] at read
          obtain ⟨rfl, rfl⟩ := Prod.mk.inj (Option.some.inj read)
          rw [ih]
          rfl
      · next read =>
          rw [next?_escapeChar_append] at read
          cases read

theorem unquote?_quote (t : Text) : unquote? (quote t) = some t := by
  rw [quote, List.cons_append, unquote?, if_pos rfl, body?_escape]

theorem line_feed_not_mem_escapeChar (c : Char) : '\n' ∉ escapeChar c := by
  unfold escapeChar
  split_ifs with tab feed back null quote mask unprintable
  · decide
  · decide
  · decide
  · decide
  · decide
  · decide
  · intro member
    have inside : '\n' ∈ Hexadecimal.numeral c.toNat := by simpa using member
    obtain ⟨k, small, same⟩ := Hexadecimal.exists_digit_of_mem_numeral inside
    exact (Hexadecimal.digit_ne small).2 same.symm
  · simpa using Ne.symm feed

/-- A quoted text stays on one line. -/
theorem line_feed_not_mem_quote (t : Text) : '\n' ∉ quote t := by
  simp [quote, line_feed_not_mem_escapeChar]

end Quoted

end ShaderLens
