import ShaderLens.Source.Surroundings
import ShaderLens.Text.Lines

/-!
# Working directories

A working directory with files and folders in it, and how paths lead into it. A path is followed
component by component. Every component but the last has to name a folder, also one that `..`
leaves again; nothing outside the directory can be reached.
-/

namespace ShaderLens

structure Directory where
  /-- The files with their contents; the path of each leads from the directory to it. -/
  files : List (Text × ByteArray)
  folders : List Text

namespace Directory

/-- The longest name of a file or folder, in bytes. -/
def nameLimit : Nat := 255

/-- The length in bytes from which on a path is refused. -/
def pathLimit : Nat := 4096

/-- The components of a path, cut at slashes. -/
def components (path : Text) : List Text :=
  Text.cutAt '/' path

/-- The place of a file or folder: the names on the way to it. -/
abbrev Place := List Text

/-- Where a component leads from a folder: an empty one and `.` stay there, and `..` goes back. -/
def follow (place : Place) (name : Text) : Place :=
  if name = [] ∨ name = ['.'] then place
  else if name = ['.', '.'] then place.dropLast
  else place ++ [name]

/-- The places that components lead through from a given place, with both ends. -/
def trail : Place → List Text → List Place
  | place, [] => [place]
  | place, name :: names => place :: trail (follow place name) names

/-- Where the path of a file or folder leads. -/
def placeOf (path : Text) : Place :=
  (components path).foldl follow []

/-- The folders: the directory itself and all that the paths of its folders and files lead through,
also those that `..` leaves again. -/
def folderPlaces (directory : Directory) : List Place :=
  [] :: directory.folders.flatMap (fun path => trail [] (components path)) ++
    directory.files.flatMap (fun file => trail [] (components file.1).dropLast)

def isFolder (directory : Directory) (place : Place) : Bool :=
  directory.folderPlaces.contains place

/-- The contents of the file at a place. A later file takes the place of an earlier one. -/
def fileAt? (directory : Directory) (place : Place) : Option ByteArray :=
  (directory.files.reverse.find? (fun file => placeOf file.1 = place)).map (·.2)

def entryAt? (directory : Directory) (place : Place) : Option Entry :=
  if directory.isFolder place then some .folder
  else (directory.fileAt? place).map .file

/-- Where a component leads from a place. -/
def step? (directory : Directory) (place : Place) (name : Text) : Option Place :=
  if ¬ directory.isFolder place then none
  else if place = [] ∧ name = ['.', '.'] then none
  else if nameLimit < Text.byteLength name ∨ '\x00' ∈ name then none
  else some (follow place name)

/-- The place that components lead to from a given place. -/
def walk? (directory : Directory) : Place → List Text → Option Place
  | place, [] => some place
  | place, name :: names =>
      match directory.step? place name with
      | none => none
      | some next => directory.walk? next names

/-- What a path leads to. A path that begins with a slash leads out of the directory. -/
def entry? (directory : Directory) (path : Text) : Option Entry :=
  if path = [] ∨ path.head? = some '/' ∨ pathLimit ≤ Text.byteLength path then none
  else
    match directory.walk? [] (components path) with
    | none => none
    | some place => directory.entryAt? place

end Directory

/-- Surroundings that consist of a working directory and standard input, without a clipboard. -/
def Directory.surroundings (directory : Directory) (stdin : ByteArray) (noClipboard : Text) :
    Surroundings where
  entry? := directory.entry?
  stdin := .ok stdin
  clipboard := .error noClipboard

end ShaderLens
