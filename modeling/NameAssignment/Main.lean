import NameAssignment.CommandLine

/-!
The program: the command line on the real file system and terminal.
-/

namespace NameAssignment.Main

/-- What the system says about a file, in the library's terms. -/
def fileErrorOf : IO.Error → FileError
  | .noFileOrDirectory .. => .notFound
  | .inappropriateType _ 21 _ => .isADirectory
  | .inappropriateType .. => .notADirectory
  | .invalidArgument _ 36 _ | .invalidArgument _ _ "name too long" => .nameTooLong
  | .permissionDenied _ code details => .system (details ++ " (os error " ++ toString code ++ ")")
  | other => .system (toString other)

/-- An action on the file at a path, with its failure as a value. -/
def attempt {α : Type} (path : String) (action : IO α) : IO (Except FileError α) := do
  match Path.fault? path with
  | some fault => return .error fault
  | none =>
    try
      return .ok (← action)
    catch failure =>
      return .error (fileErrorOf failure)

/-- A file that can be opened is there, and so is one that cannot for another reason than its
path. -/
def isPresent (path : String) : IO Bool := do
  match ← attempt path (discard (IO.FS.Handle.mk path .read)) with
  | .error .notFound | .error .notADirectory | .error .nameTooLong | .error .nulInName =>
    return false
  | _ => return true

/-- The real file system. -/
def files : FileAccess IO where
  isPresent := isPresent
  readBytes path := attempt path (IO.FS.readBinFile path)
  writeText path text := attempt path (IO.FS.writeFile path text)

/-- Said when help is asked for. -/
def usage : String := String.intercalate "\n" [
  "Usage: namegraph [-v] COMMAND",
  "",
  "Commands:",
  "  resolve MANIFEST [-f text|json] [--strict] [--no-guard] [--filler CHAR] [-c SETTINGS]",
  "  check MANIFEST",
  "  init [-p SETTINGS] [--force]",
  ""]

end NameAssignment.Main

open NameAssignment in
/-- Runs the program: prints what the call prints and ends with its code. -/
def main (arguments : List String) : IO UInt32 := do
  let out ← IO.getStdout
  let err ← IO.getStderr
  match CommandLine.parse {} arguments with
  | .error .help => out.putStr Main.usage
  | _ => pure ()
  let theme := Terminal.Theme.detect (← out.isTty)
  let outcome ← CommandLine.run Main.files theme arguments
  out.putStr outcome.output.out
  err.putStr outcome.output.err
  return outcome.code.toUInt32
