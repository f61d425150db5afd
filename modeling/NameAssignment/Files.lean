import NameAssignment.Error

/-!
Access to files: what the commands ask of a file system.

The commands are written against `FileAccess` in any monad, so the same code runs on the real file
system and on a tree held in memory.
-/

namespace NameAssignment

/-- The operations that commands use. Content is read as bytes and written as text. -/
structure FileAccess (m : Type → Type) where
  isPresent : String → m Bool
  readBytes : String → m (Except FileError ByteArray)
  writeText : String → String → m (Except FileError Unit)

/-- The text in a file, which must be UTF-8. -/
def FileAccess.readText {m : Type → Type} [Monad m] (files : FileAccess m) (path : String) :
    m (Except FileError String) := do
  match ← files.readBytes path with
  | .error cause => return .error cause
  | .ok bytes =>
    match String.fromUTF8? bytes with
    | some text => return .ok text
    | none => return .error .notText

namespace Path

/-- A file's name takes as many bytes at most. -/
def nameLimit : Nat := 255

/-- A path takes fewer bytes than this. -/
def limit : Nat := 4096

/-- What is wrong with a path wherever it leads. -/
def fault? (path : String) : Option FileError :=
  if path.contains '\x00' then some .nulInName
  else if path = "" then some .notFound
  else if limit ≤ path.utf8ByteSize then some .nameTooLong
  else none

/-- The names between the slashes of a path. A point means where one is, and two points mean the
directory above. -/
def steps (path : String) : List String := (path.splitOn "/").filter (· ≠ "")

/-- A path that ends in a slash can only mean a directory. -/
def endsInSlash (path : String) : Bool := path.endsWith "/"

/-- What stands after the last point of a file name, unless that point is its first character. -/
def extensionOf? (name : String) : Option String :=
  match name.splitOn "." with
  | [] | [_] | ["", _] => none
  | pieces => pieces.getLast?

/-- The extension of the file that a path leads to. -/
def extension? (path : String) : Option String :=
  match ((steps path).filter (· ≠ ".")).getLast? with
  | none | some ".." => none
  | some name => extensionOf? name

end Path

end NameAssignment
