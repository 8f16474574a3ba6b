import ShaderLens.Text.Basic

/-!
# Texts as bytes

The UTF-8 form of a text, and the reading of bytes as a text. Reading accepts exactly the forms
that writing produces (`ofUtf8?_eq_some_iff`), so bytes that are no text are refused.
-/

namespace ShaderLens.Text

/-- The UTF-8 form of a text. -/
def utf8 (t : Text) : ByteArray :=
  (String.ofList t).toByteArray

/-- The text with a given UTF-8 form. -/
def ofUtf8? (bytes : ByteArray) : Option Text :=
  (String.fromUTF8? bytes).map String.toList

theorem ofUtf8?_utf8 (t : Text) : ofUtf8? (utf8 t) = some t := by
  have valid : (utf8 t).IsValidUTF8 := (String.ofList t).isValidUTF8
  simp only [ofUtf8?, String.fromUTF8?, valid, ↓reduceDIte, Option.map_some, Option.some.injEq]
  exact String.toList_ofList

theorem eq_utf8_of_ofUtf8? {bytes : ByteArray} {t : Text} (read : ofUtf8? bytes = some t) :
    bytes = utf8 t := by
  rw [ofUtf8?, String.fromUTF8?] at read
  split at read
  · rw [Option.map_some, Option.some.injEq] at read
    rw [utf8, ← read, String.ofList_toList]
    rfl
  · simp at read

theorem ofUtf8?_eq_some_iff {bytes : ByteArray} {t : Text} :
    ofUtf8? bytes = some t ↔ bytes = utf8 t :=
  ⟨eq_utf8_of_ofUtf8?, fun same => same ▸ ofUtf8?_utf8 t⟩

theorem size_utf8 (t : Text) : (utf8 t).size = byteLength t := by
  rw [utf8, String.toByteArray_ofList]
  induction t with
  | nil => simp
  | cons c rest ih =>
      have one : [c].utf8Encode.size = c.utf8Size := by simp [List.utf8Encode_singleton]
      rw [List.utf8Encode_cons, ByteArray.size_append, ih, one, byteLength_cons]

end ShaderLens.Text
