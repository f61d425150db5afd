import NameAssignment.Error

/-!
What can stop a command: everything that can stop the naming, and what the command's own files and
choices add to it.
-/

namespace NameAssignment

inductive CommandError
  /-- The manifest could not be read, built or resolved. -/
  | cause (error : Error)
  /-- The settings file could not be read or written. -/
  | file (error : FileError)
  /-- The settings file holds no settings. -/
  | malformedSettings
  /-- There is something in the place of the settings file to be written. -/
  | settingsPresent (path : String)
  /-- A strict run left entities without a name. -/
  | stalled (unnamed : Nat)
  deriving DecidableEq, Repr

def CommandError.message : CommandError → String
  | .cause error => error.message
  | .file error => error.message
  | .malformedSettings => "TOML parse error"
  | .settingsPresent path =>
    "config already exists at " ++ path ++ " (use --force to overwrite)"
  | .stalled unnamed =>
    "resolution stalled: " ++ toString unnamed
      ++ " unnamed entities (dependency cycle or unreachable forbidden namespace)"

end NameAssignment
