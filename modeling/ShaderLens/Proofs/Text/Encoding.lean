import ShaderLens.Text.Utf8

/-!
# Strict UTF-8

Which bytes a text has is said here without writing or reading them: each character is spelled with
six bits of its code point in every byte but the first one, and with no more bytes than it takes
(`Utf8.Spells`). A surrogate is no character and so in no text. Writing a text gives the bytes that
encode it, and no other bytes do (`Utf8.encodes_iff`).
-/

namespace ShaderLens.Utf8

/-- The bytes of a code point. The first byte tells how many there are. -/
inductive Spells : List Nat → Nat → Prop
  | one {n : Nat} : n < 0x80 → Spells [n] n
  | two {n a b : Nat} : n = a * 0x40 + b → a < 0x20 → b < 0x40 → 0x80 ≤ n →
      Spells [0xC0 + a, 0x80 + b] n
  | three {n a b c : Nat} : n = (a * 0x40 + b) * 0x40 + c → a < 0x10 → b < 0x40 → c < 0x40 →
      0x800 ≤ n → Spells [0xE0 + a, 0x80 + b, 0x80 + c] n
  | four {n a b c d : Nat} : n = ((a * 0x40 + b) * 0x40 + c) * 0x40 + d → a < 0x8 → b < 0x40 →
      c < 0x40 → d < 0x40 → 0x10000 ≤ n → Spells [0xF0 + a, 0x80 + b, 0x80 + c, 0x80 + d] n

/-- The bytes are those of the characters of a text, one character after the other. -/
inductive Encodes : List Nat → Text → Prop
  | nil : Encodes [] []
  | cons {unit bytes : List Nat} {c : Char} {t : Text} :
      Spells unit c.toNat → Encodes bytes t → Encodes (unit ++ bytes) (c :: t)

def octets (bytes : ByteArray) : List Nat :=
  bytes.data.toList.map UInt8.toNat

/-- The spelling of a code point that has no more bytes than it takes. -/
def spelling (n : Nat) : List Nat :=
  if n < 0x80 then [n]
  else if n < 0x800 then [0xC0 + n / 0x40, 0x80 + n % 0x40]
  else if n < 0x10000 then [0xE0 + n / 0x1000, 0x80 + n / 0x40 % 0x40, 0x80 + n % 0x40]
  else [0xF0 + n / 0x40000, 0x80 + n / 0x1000 % 0x40, 0x80 + n / 0x40 % 0x40, 0x80 + n % 0x40]

variable {unit : List Nat} {n : Nat} {bytes : ByteArray} {t : Text}

theorem Spells.eq_spelling (h : Spells unit n) : unit = spelling n := by
  cases h with
  | one small => rw [spelling, if_pos small]
  | two value =>
      rw [spelling, if_neg (by omega), if_pos (by omega)]
      congr <;> omega
  | three value =>
      rw [spelling, if_neg (by omega), if_neg (by omega), if_pos (by omega)]
      congr <;> omega
  | four value =>
      rw [spelling, if_neg (by omega), if_neg (by omega), if_neg (by omega)]
      congr <;> omega

theorem spells_spelling (last : n < 0x110000) : Spells (spelling n) n := by
  unfold spelling
  split
  · next one => exact .one one
  · split
    · exact .two (by omega) (by omega) (by omega) (by omega)
    · split
      · exact .three (by omega) (by omega) (by omega) (by omega) (by omega)
      · exact .four (by omega) (by omega) (by omega) (by omega) (by omega) (by omega)

theorem toNat_lt_end (c : Char) : c.toNat < 0x110000 := by
  obtain low | ⟨_, high⟩ := c.valid
  · exact Nat.lt_trans low (by decide)
  · exact high

theorem spells_iff {c : Char} : Spells unit c.toNat ↔ unit = spelling c.toNat := by
  constructor
  · exact Spells.eq_spelling
  · rintro rfl
    exact spells_spelling (toNat_lt_end c)

theorem map_utf8EncodeChar (c : Char) :
    (String.utf8EncodeChar c).map UInt8.toNat = spelling c.toNat := by
  have last := toNat_lt_end c
  have code : c.val.toNat = c.toNat := rfl
  simp only [String.utf8EncodeChar, code]
  generalize c.toNat = n at last
  unfold spelling
  by_cases one : n < 0x80
  · rw [if_pos (by omega), if_pos one]
    simp only [List.map_cons, List.map_nil, UInt8.toNat_ofNat', List.cons.injEq, and_true]
    omega
  · rw [if_neg (by omega), if_neg one]
    by_cases two : n < 0x800
    · rw [if_pos (by omega), if_pos two]
      simp only [List.map_cons, List.map_nil, UInt8.toNat_ofNat', List.cons.injEq, and_true]
      omega
    · rw [if_neg (by omega), if_neg two]
      by_cases three : n < 0x10000
      · rw [if_pos (by omega), if_pos three]
        simp only [List.map_cons, List.map_nil, UInt8.toNat_ofNat', List.cons.injEq, and_true]
        omega
      · rw [if_neg (by omega), if_neg three]
        simp only [List.map_cons, List.map_nil, UInt8.toNat_ofNat', List.cons.injEq, and_true]
        omega

theorem octets_utf8 (t : Text) : octets t.utf8 = t.flatMap fun c => spelling c.toNat := by
  rw [octets, Text.utf8, String.toByteArray_ofList, List.utf8Encode, List.data_toByteArray]
  simp only [List.map_flatMap, map_utf8EncodeChar]

theorem encodes_iff_eq_flatMap {octets : List Nat} :
    Encodes octets t ↔ octets = t.flatMap fun c => spelling c.toNat := by
  induction t generalizing octets with
  | nil =>
      constructor
      · rintro ⟨⟩
        rfl
      · rintro rfl
        exact .nil
  | cons c rest ih =>
      rw [List.flatMap_cons]
      constructor
      · intro h
        cases h with
        | cons first later => rw [spells_iff.1 first, ih.1 later]
      · rintro rfl
        exact .cons (spells_iff.2 rfl) (ih.2 rfl)

theorem octets_injective {a b : ByteArray} (same : octets a = octets b) : a = b := by
  apply ByteArray.ext
  apply Array.toList_inj.1
  exact (List.map_inj_right fun _ _ => UInt8.toNat_inj.1).1 same

/-- The bytes of a text are the only ones that encode it. -/
theorem encodes_iff : Encodes (octets bytes) t ↔ bytes = t.utf8 := by
  rw [encodes_iff_eq_flatMap, ← octets_utf8]
  constructor
  · exact octets_injective
  · rintro rfl
    rfl

/-- Bytes are read as the text that they encode, and not at all if they encode none. -/
theorem ofUtf8?_eq_some_iff_encodes : Text.ofUtf8? bytes = some t ↔ Encodes (octets bytes) t := by
  rw [Text.ofUtf8?_eq_some_iff, encodes_iff]

theorem ofUtf8?_eq_none_iff : Text.ofUtf8? bytes = none ↔ ∀ t, ¬ Encodes (octets bytes) t := by
  simp only [Option.eq_none_iff_forall_ne_some, ne_eq, ofUtf8?_eq_some_iff_encodes]

end ShaderLens.Utf8
