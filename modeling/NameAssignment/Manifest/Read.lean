import NameAssignment.Json.Reader
import NameAssignment.Manifest.Decode
import NameAssignment.Toml.Reader

/-!
Reading a manifest from text in either format. A text that is no document of the format and a
document that describes no manifest are the same error.
-/

namespace NameAssignment

/-- The document a text holds. -/
def DocumentFormat.read : DocumentFormat → String → Option Document
  | .toml => Toml.read
  | .json => Json.read

/-- The manifest a text describes. -/
def Manifest.read (format : DocumentFormat) (text : String) : Except Error Manifest :=
  match format.read text >>= Manifest.ofDocument? format with
  | some manifest => .ok manifest
  | none => .error (.malformed format)

end NameAssignment
