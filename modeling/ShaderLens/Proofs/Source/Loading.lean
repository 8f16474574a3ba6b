import ShaderLens.Proofs.Text.Encoding
import ShaderLens.Source.Directory
import ShaderLens.Source.Load

/-!
# What is loaded

The bytes of a file and those of standard input are read alike: both are loaded as the text that
they encode, or refused if they encode none, and only the label of the origin makes a difference
(`Shader.ofBytes_cases`). Nothing is decoded of a file that does not exist or has no bytes to read,
nor of a standard input that cannot be read.
-/

namespace ShaderLens

namespace Shader

/-- Bytes are loaded as the text that they encode, under whatever label, or under none. -/
theorem ofBytes_cases (bytes : ByteArray) :
    (∃ text, Utf8.Encodes (Utf8.octets bytes) text ∧
      ∀ origin, ofBytes origin bytes = .ok ⟨text, origin⟩) ∨
    (∀ text, ¬ Utf8.Encodes (Utf8.octets bytes) text) ∧
      ∀ origin, ofBytes origin bytes = .error (.invalidEncoding origin) := by
  cases read : Text.ofUtf8? bytes with
  | some text =>
      left
      refine ⟨text, Utf8.ofUtf8?_eq_some_iff_encodes.1 read, ?_⟩
      intro origin
      rw [ofBytes, read]
  | none =>
      right
      refine ⟨Utf8.ofUtf8?_eq_none_iff.1 read, ?_⟩
      intro origin
      rw [ofBytes, read]

variable {around : Surroundings} {path : Text} {bytes : ByteArray}

theorem load_file (entry : around.entry? path = some (.file bytes)) :
    load around (.file path) = ofBytes (Source.file path).origin bytes := by
  rw [load, entry]

theorem load_stdin (read : around.stdin = .ok bytes) :
    load around .stdin = ofBytes Source.stdin.origin bytes := by
  rw [load, read]

/-- Decoding fails for one reason only. -/
theorem ofBytes_ne_error {origin : Text} {error : LoadError}
    (other : error ≠ .invalidEncoding origin) : ofBytes origin bytes ≠ .error error := by
  intro failed
  obtain ⟨text, -, loaded⟩ | ⟨-, refused⟩ := ofBytes_cases bytes
  · rw [loaded] at failed
    cases failed
  · rw [refused] at failed
    exact other (Except.error.inj failed).symm

theorem load_eq_fileNotFound_iff :
    load around (.file path) = .error (.fileNotFound path) ↔ around.entry? path = none := by
  constructor
  · intro failed
    cases entry : around.entry? path with
    | none => rfl
    | some found =>
        cases found with
        | file bytes =>
            rw [load_file entry] at failed
            exact absurd failed (ofBytes_ne_error nofun)
        | unreadable reason =>
            rw [load, entry] at failed
            cases failed
  · intro entry
    rw [load, entry]

theorem load_eq_unreadable_iff {reason : Text} :
    load around (.file path) = .error (.unreadable (Source.file path).origin reason) ↔
      around.entry? path = some (.unreadable reason) := by
  constructor
  · intro failed
    cases entry : around.entry? path with
    | none =>
        rw [load, entry] at failed
        cases failed
    | some found =>
        cases found with
        | file bytes =>
            rw [load_file entry] at failed
            exact absurd failed (ofBytes_ne_error nofun)
        | unreadable other =>
            rw [load, entry] at failed
            cases failed
            rfl
  · intro entry
    rw [load, entry]

theorem load_stdin_eq_unreadable_iff {reason : Text} :
    load around .stdin = .error (.unreadable Source.stdin.origin reason) ↔
      around.stdin = .error reason := by
  constructor
  · intro failed
    cases read : around.stdin with
    | ok bytes =>
        rw [load_stdin read] at failed
        exact absurd failed (ofBytes_ne_error nofun)
    | error other =>
        rw [load, read] at failed
        cases failed
        rfl
  · intro read
    rw [load, read]

end Shader

open Shader

/-- **A file and standard input with the same bytes load alike.** Both give the text that the bytes
encode, and writing it gives the bytes again, or both refuse the bytes because they encode no text.
Only the labels differ. A file is not found if its path leads nowhere, and unreadable, as a folder
is, if there are no bytes at the end of it, and in no other case; standard input is unreadable if
its bytes cannot be had. -/
theorem file_and_stdin_load_alike (disk pipe : Surroundings) (path : Text) :
    (∀ bytes, disk.entry? path = some (.file bytes) → pipe.stdin = .ok bytes →
      (∃ text, Utf8.Encodes (Utf8.octets bytes) text ∧ text.utf8 = bytes ∧
        load disk (.file path) = .ok ⟨text, "file:".toList ++ path⟩ ∧
        load pipe .stdin = .ok ⟨text, "stdin".toList⟩) ∨
      (∀ text, ¬ Utf8.Encodes (Utf8.octets bytes) text) ∧
        load disk (.file path) = .error (.invalidEncoding ("file:".toList ++ path)) ∧
        load pipe .stdin = .error (.invalidEncoding "stdin".toList)) ∧
    (load disk (.file path) = .error (.fileNotFound path) ↔ disk.entry? path = none) ∧
    (∀ reason, load disk (.file path) = .error (.unreadable ("file:".toList ++ path) reason) ↔
      disk.entry? path = some (.unreadable reason)) ∧
    ∀ reason, load pipe .stdin = .error (.unreadable "stdin".toList reason) ↔
      pipe.stdin = .error reason := by
  refine ⟨?_, load_eq_fileNotFound_iff, fun reason => load_eq_unreadable_iff,
    fun reason => load_stdin_eq_unreadable_iff⟩
  intro bytes entry read
  rw [load_file entry, load_stdin read]
  obtain ⟨text, encodes, loaded⟩ | ⟨never, refused⟩ := ofBytes_cases bytes
  · exact .inl ⟨text, encodes, (Utf8.encodes_iff.1 encodes).symm, loaded _, loaded _⟩
  · exact .inr ⟨never, refused _, refused _⟩

/-- A byte order mark and a carriage return are loaded like all else. -/
theorem marked_file_loads_whole :
    let text : Text := "\uFEFFx\r\n".toList
    let disk := Directory.surroundings ⟨[("a".toList, text.utf8)], ["d".toList]⟩ .empty []
    let pipe := Directory.surroundings ⟨[], []⟩ text.utf8 []
    disk.entry? "a".toList = some (.file text.utf8) ∧ pipe.stdin = .ok text.utf8 ∧
      load disk (.file "a".toList) = .ok ⟨text, "file:a".toList⟩ ∧
      load pipe .stdin = .ok ⟨text, "stdin".toList⟩ ∧
      load disk (.file "b".toList) = .error (.fileNotFound "b".toList) ∧
      load disk (.file "d".toList) =
        .error (.unreadable "file:d".toList "Is a directory (os error 21)".toList) := by
  intro text disk pipe
  have entry : disk.entry? "a".toList = some (.file text.utf8) := by rfl
  have encodes : Utf8.Encodes (Utf8.octets text.utf8) text := Utf8.encodes_iff.2 rfl
  have missing : disk.entry? "b".toList = none := by rfl
  have folder : disk.entry? "d".toList = some .folder := by rfl
  obtain ⟨other, encodes', -, fromFile, fromStdin⟩ | ⟨never, -⟩ :=
    (file_and_stdin_load_alike disk pipe "a".toList).1 _ entry rfl
  · have same : other = text := by
      have read := Utf8.ofUtf8?_eq_some_iff_encodes.2 encodes
      rw [Utf8.ofUtf8?_eq_some_iff_encodes.2 encodes'] at read
      exact Option.some.inj read
    rw [same] at fromFile fromStdin
    refine ⟨entry, rfl, fromFile, fromStdin, ?_, ?_⟩
    · exact (file_and_stdin_load_alike disk pipe "b".toList).2.1.2 missing
    · exact ((file_and_stdin_load_alike disk pipe "d".toList).2.2.1 _).2 folder
  · exact absurd encodes (never text)

end ShaderLens
