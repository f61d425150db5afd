import NameAssignment.Handle
import NameAssignment.Text.Quoted

/-!
What can go wrong, by cause.

An error carries the things it is about (the entity, its rival, the naming function, the names
that were returned) and not a finished sentence. The wording is `Error.message`, written in one
place.
-/

namespace NameAssignment

/-- An entity as messages name it. -/
structure EntityLabel where
  name : String
  handle : EntityRef
  deriving DecidableEq, Repr

def EntityLabel.text (label : EntityLabel) : String :=
  "`" ++ label.name ++ "` (" ++ label.handle.text ++ ")"

/-- How the answer of a naming function can break the function's contract. -/
inductive ContractViolation
  | wrongCount (function : FunctionRef) (proposed : String) (returned expected : Nat)
  | repeatedName (function : FunctionRef) (proposed : String) (returned : List String)
  | forbiddenName (function : FunctionRef) (proposed : String) (name : String)
  deriving DecidableEq, Repr

def ContractViolation.message : ContractViolation → String
  | .wrongCount function proposed returned expected =>
    function.text ++ " returned " ++ toString returned ++ " names for `" ++ proposed
      ++ "`, expected " ++ toString expected
  | .repeatedName function proposed returned =>
    function.text ++ " returned duplicate names for `" ++ proposed ++ "`: "
      ++ Quoted.encodeList returned
  | .forbiddenName function proposed name =>
    function.text ++ " returned forbidden name `" ++ name ++ "` for `" ++ proposed ++ "`"

/-- A handle that points at no filled slot, and where it was found. -/
inductive DanglingReference
  | parent (child : String) (missing : NamespaceRef)
  | forbidden (forbidder : String) (missing : NamespaceRef)
  | home (entity : EntityLabel) (missing : NamespaceRef)
  | function (entity : EntityLabel) (missing : FunctionRef)
  | dependency (entity : EntityLabel) (missing : EntityRef)
  | root (missing : NamespaceRef)
  | batchFunction (missing : FunctionRef)
  deriving DecidableEq, Repr

def DanglingReference.message : DanglingReference → String
  | .parent child missing => "namespace `" ++ child ++ "` has missing parent " ++ missing.text
  | .forbidden forbidder missing =>
    "namespace `" ++ forbidder ++ "` forbids missing " ++ missing.text
  | .home entity missing => entity.text ++ " belongs to missing " ++ missing.text
  | .function entity missing => entity.text ++ " uses unregistered " ++ missing.text
  | .dependency entity missing => entity.text ++ " depends on missing " ++ missing.text
  | .root missing => missing.text
  | .batchFunction missing => missing.text

/-- Why a manifest describes no graph. -/
inductive ManifestFault
  | duplicateNamespace (name : String)
  | duplicateMember (id : String)
  | unknownNamespace (namespaceName : String) (missing : String)
  | lateParent (namespaceName : String) (parent : String)
  | unknownFunction (member : String) (missing : String)
  | unknownDependency (member : String) (missing : String)
  | placeholderOutOfRange (member : String) (index dependencies : Nat)
  | outOfOrder (member : String)
  deriving DecidableEq, Repr

def ManifestFault.message : ManifestFault → String
  | .duplicateNamespace name => "duplicate namespace `" ++ name ++ "`"
  | .duplicateMember id => "duplicate member id `" ++ id ++ "`"
  | .unknownNamespace namespaceName missing =>
    "namespace `" ++ namespaceName ++ "` refers to unknown namespace `" ++ missing ++ "`"
  | .lateParent namespaceName parent =>
    "parent `" ++ parent ++ "` of `" ++ namespaceName ++ "` must be declared first"
  | .unknownFunction member missing =>
    "member `" ++ member ++ "` uses unknown namer `" ++ missing ++ "`"
  | .unknownDependency member missing =>
    "member `" ++ member ++ "` depends on unknown member `" ++ missing ++ "`"
  | .placeholderOutOfRange member index dependencies =>
    "member `" ++ member ++ "` template uses \x7b" ++ toString index ++ "\x7d but has "
      ++ toString dependencies ++ " dependencies"
  | .outOfOrder member => "member `" ++ member ++ "` was not created in declaration order"

/-- What the file system answers when a file cannot be read or written. -/
inductive FileError
  | notFound
  | notADirectory
  | isADirectory
  | nameTooLong
  | nulInName
  | notText
  | system (text : String)
  deriving DecidableEq, Repr

def FileError.message : FileError → String
  | .notFound => "No such file or directory (os error 2)"
  | .notADirectory => "Not a directory (os error 20)"
  | .isADirectory => "Is a directory (os error 21)"
  | .nameTooLong => "File name too long (os error 36)"
  | .nulInName => "file name contained an unexpected NUL byte"
  | .notText => "stream did not contain valid UTF-8"
  | .system text => text

/-- The two formats a manifest can be written in. -/
inductive DocumentFormat
  | toml
  | json
  deriving DecidableEq, Repr

/-- Everything that can stop the naming of entities or the reading of a manifest. -/
inductive Error
  | assignedTwice (entity : EntityLabel) (held attempted : String)
  | nameTaken (entity holder : EntityLabel) (name : String)
  | contract (violation : ContractViolation)
  | invalidRequest (reason : String)
  | dependencyUnnamed (entity : EntityLabel) (dependency : EntityRef)
  | dangling (reference : DanglingReference)
  | manifest (fault : ManifestFault)
  | file (cause : FileError)
  | malformed (format : DocumentFormat)
  deriving DecidableEq, Repr

/-- The text shown for an error. What is wrong inside a malformed document is not said. -/
def Error.message : Error → String
  | .assignedTwice entity held attempted =>
    entity.text ++ " was assigned twice (had `" ++ held ++ "`, got `" ++ attempted ++ "`)"
  | .nameTaken entity holder name =>
    "name `" ++ name ++ "` for " ++ entity.text ++ " conflicts with " ++ holder.text
  | .contract violation => "naming function contract violation: " ++ violation.message
  | .invalidRequest reason => "invalid naming request: " ++ reason
  | .dependencyUnnamed entity dependency =>
    entity.text ++ " proposed a name before dependency " ++ dependency.text ++ " was resolved"
  | .dangling reference => "Unknown entity: " ++ reference.message
  | .manifest fault => "Manifest error: " ++ fault.message
  | .file cause => "IO error: " ++ cause.message
  | .malformed .toml => "TOML error"
  | .malformed .json => "JSON error"

end NameAssignment
