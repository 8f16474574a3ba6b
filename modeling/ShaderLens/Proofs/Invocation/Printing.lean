import ShaderLens.Invocation.Run

/-!
# Printing to an output with limited room

An output takes the bytes that it is offered in portions, and how large these are is its own affair
(`Printed.Writes`). What comes of it in the end is settled by the bytes and the room alone
(`Printed.writes_iff`): a command prints all of its text if the bytes of that text find room, and
fails if they do not.
-/

namespace ShaderLens

namespace Printed

/-- Offers what is left of some bytes to an output that has taken the others. As long as there is
room it takes a portion and is offered the rest again; printing fails when it takes nothing. -/
inductive Writes (room : Nat) : (taken rest : ByteArray) → Printed → Prop
  | done (taken : ByteArray) : Writes room taken .empty ⟨taken, none⟩
  | full (taken rest : ByteArray) (filled : taken.size = room) (left : 0 < rest.size) :
      Writes room taken rest ⟨taken, some .outputFull⟩
  | portion (taken rest : ByteArray) (count : Nat) (positive : 0 < count)
      (fits : taken.size + count ≤ room) (offered : count ≤ rest.size) (printed : Printed)
      (later : Writes room (taken ++ rest.extract 0 count) (rest.extract count rest.size) printed) :
      Writes room taken rest printed

/-- What comes of offering bytes: all of them are taken, or as many as there is room for. -/
def ending (room : Nat) (taken rest : ByteArray) : Printed :=
  if taken.size + rest.size ≤ room then ⟨taken ++ rest, none⟩
  else ⟨taken ++ rest.extract 0 (room - taken.size), some .outputFull⟩

section

variable {room : Nat} {taken rest : ByteArray}

/-- A portion more or less makes no difference to the ending. -/
theorem ending_portion {count : Nat} (fits : taken.size + count ≤ room)
    (offered : count ≤ rest.size) :
    ending room (taken ++ rest.extract 0 count) (rest.extract count rest.size) =
      ending room taken rest := by
  have front : (rest.extract 0 count).size = count := by
    rw [ByteArray.size_extract]
    omega
  have back : (rest.extract count rest.size).size = rest.size - count := by
    rw [ByteArray.size_extract]
    omega
  unfold ending
  rw [ByteArray.size_append, front, back]
  by_cases whole : taken.size + rest.size ≤ room
  · have joined : rest.extract 0 count ++ rest.extract count rest.size = rest := by
      rw [← ByteArray.extract_eq_extract_append_extract count (Nat.zero_le count) offered,
        ByteArray.extract_zero_size]
    rw [if_pos (by omega), if_pos whole, ByteArray.append_assoc, joined]
  · have joined : rest.extract 0 count ++
        (rest.extract count rest.size).extract 0 (room - (taken.size + count)) =
          rest.extract 0 (room - taken.size) := by
      have stop : min (count + (room - (taken.size + count))) rest.size = room - taken.size := by
        omega
      rw [ByteArray.extract_extract, Nat.add_zero, stop,
        ← ByteArray.extract_eq_extract_append_extract count (Nat.zero_le count) (by omega)]
    rw [if_neg (by omega), if_neg whole, ByteArray.append_assoc, joined]

theorem Writes.eq_ending {printed : Printed} (writes : Writes room taken rest printed)
    (within : taken.size ≤ room) : printed = ending room taken rest := by
  induction writes with
  | done taken => simp [ending, within]
  | full taken rest filled left =>
      rw [ending, if_neg (by omega), filled, Nat.sub_self, ByteArray.extract_same,
        ByteArray.append_empty]
  | portion taken rest count positive fits offered printed later ih =>
      rw [ih (by rw [ByteArray.size_append, ByteArray.size_extract]; omega),
        ending_portion fits offered]

theorem writes_ending_of_settled (within : taken.size ≤ room)
    (settled : rest.size = 0 ∨ taken.size = room) :
    Writes room taken rest (ending room taken rest) := by
  obtain empty | left := Nat.eq_zero_or_pos rest.size
  · obtain rfl := ByteArray.size_eq_zero_iff.1 empty
    rw [ending, if_pos (by rwa [ByteArray.size_empty]), ByteArray.append_empty]
    exact .done taken
  · have filled : taken.size = room := by omega
    rw [ending, if_neg (by omega), filled, Nat.sub_self, ByteArray.extract_same,
      ByteArray.append_empty]
    exact .full taken rest filled left

/-- There is an ending: an output may take all that it has room for at once. -/
theorem writes_ending (within : taken.size ≤ room) :
    Writes room taken rest (ending room taken rest) := by
  by_cases settled : rest.size = 0 ∨ taken.size = room
  · exact writes_ending_of_settled within settled
  · -- One portion is enough: it takes all that is left or fills the room.
    let count := min (room - taken.size) rest.size
    have fits : taken.size + count ≤ room := by omega
    have offered : count ≤ rest.size := Nat.min_le_right _ _
    refine .portion taken rest count (by omega) fits offered _ ?_
    rw [← ending_portion fits offered]
    apply writes_ending_of_settled
    · rw [ByteArray.size_append, ByteArray.size_extract]
      omega
    · rw [ByteArray.size_append, ByteArray.size_extract, ByteArray.size_extract]
      omega

theorem writes_iff {printed : Printed} (within : taken.size ≤ room) :
    Writes room taken rest printed ↔ printed = ending room taken rest := by
  constructor
  · intro writes
    exact writes.eq_ending within
  · rintro rfl
    exact writes_ending within

end

theorem ofText_eq_ending (room : Nat) (text : Text) :
    ofText (some room) text = ending room .empty text.utf8 := by
  simp only [ofText, ending, ByteArray.size_empty, Nat.zero_add, ByteArray.empty_append,
    Nat.sub_zero]

/-- What is printed of a text where there is room for a number of bytes. In whatever portions the
output takes them, it gets the whole text if its bytes find room, and else only those that do. -/
structure Settles (room : Nat) (text : Text) (printed : Printed) : Prop where
  writes_iff : ∀ other, Writes room .empty text.utf8 other ↔ other = printed
  whole : text.byteLength ≤ room → printed = ⟨text.utf8, none⟩
  cut : room < text.byteLength → printed = ⟨text.utf8.extract 0 room, some .outputFull⟩

theorem settles_ofText (room : Nat) (text : Text) :
    Settles room text (ofText (some room) text) := by
  constructor
  · intro other
    rw [ofText_eq_ending]
    exact Printed.writes_iff (Nat.zero_le room)
  · intro finds
    simp [ofText, Text.size_utf8, finds]
  · intro exceeds
    simp [ofText, Text.size_utf8, Nat.not_le.2 exceeds]

/-- A failure that leaves nothing printed. -/
def refused (failure : Failure) : Printed :=
  ⟨.empty, some failure⟩

end Printed

/-- **A command prints all it has to say, or it fails.** A view is refused, and so is a command
whose shader does not load, with nothing printed however much room there is. All others have a text
to print: the usage, the markup of the shader or the listing of its tokens. It is printed as a whole
if its bytes find room, and if they do not, printing fails. The portions in which an output takes
the bytes make no difference. -/
theorem command_prints_all_or_fails (invocation : Invocation) (around : Surroundings)
    (room : Nat) :
    let printed := invocation.print around (some room)
    match invocation.command with
    | .view _ _ => printed = .refused (.unknownCommand "view".toList)
    | .help => Printed.Settles room usage printed
    | .html source =>
        match Shader.load around source with
        | .error cause => printed = .refused (.load cause)
        | .ok shader =>
            Printed.Settles room (Markup.highlight invocation.settings.markup shader.text) printed
    | .tokens source =>
        match Shader.load around source with
        | .error cause => printed = .refused (.load cause)
        | .ok shader => Printed.Settles room (Listing.render shader.text.tokens) printed := by
  obtain ⟨command, settings⟩ := invocation
  cases command with
  | view vertex fragment => rfl
  | help => exact Printed.settles_ofText room usage
  | html source =>
      simp only [Invocation.print, Invocation.output]
      cases Shader.load around source with
      | error cause => rfl
      | ok shader => exact Printed.settles_ofText room _
  | tokens source =>
      simp only [Invocation.print, Invocation.output]
      cases Shader.load around source with
      | error cause => rfl
      | ok shader => exact Printed.settles_ofText room _

end ShaderLens
