import NameAssignment.CommandError
import NameAssignment.Document.Record
import NameAssignment.Files
import NameAssignment.NamingFunction.Counting
import NameAssignment.Toml.Reader

/-!
Settings: the choices kept in a TOML file beside the manifests.

Each choice can be left open, and then has a fixed value. Unknown keys mean nothing.
-/

namespace NameAssignment

/-- The choices that a settings file makes. -/
structure Settings where
  /-- For the naming function `default`. -/
  filler : Option Char := none
  /-- Whether runs are guarded. -/
  guardsOwn : Option Bool := none
  /-- Whether entities without a name are a failure. -/
  isStrict : Option Bool := none
  deriving DecidableEq, Repr

namespace Settings

open Document

/-- Where settings are looked for if nothing else is said. -/
def defaultPath : String := "namegraph.toml"

/-- Settings with every choice made as it is when left open. -/
def standard : Settings := ⟨some Counting.defaultFiller, some true, some false⟩

def effectiveFiller (settings : Settings) : Char := settings.filler.getD Counting.defaultFiller

def effectiveGuard (settings : Settings) : Bool := settings.guardsOwn.getD true

def effectiveStrict (settings : Settings) : Bool := settings.isStrict.getD false

def ofDocument? (document : Document) : Option Settings := do
  let fields ← document.record? ⟨false, false⟩ ["filler", "guard_own_namespace", "strict"]
  let filler ← nullable? fields "filler" character?
  let guardsOwn ← nullable? fields "guard_own_namespace" truth?
  return ⟨filler, guardsOwn, ← nullable? fields "strict" truth?⟩

/-- The settings a text makes. -/
def read (text : String) : Except CommandError Settings :=
  match Toml.read text >>= ofDocument? with
  | some settings => .ok settings
  | none => .error .malformedSettings

def hexDigit (n : Nat) : Char := ("0123456789ABCDEF".toList[n]?).getD '0'

/-- A character that quotes cannot hold as it is. -/
def escapeControl (c : Char) : String :=
  match c with
  | '\x08' => "\\b"
  | '\t' => "\\t"
  | '\x0c' => "\\f"
  | '\r' => "\\r"
  | _ => String.ofList ['\\', 'u', '0', '0', hexDigit (c.toNat / 16), hexDigit (c.toNat % 16)]

/-- A text of one character. Apostrophes go around a quote or a backslash, and a line end stands
between lines of three quotes. -/
def characterText (c : Char) : String :=
  if c = '"' || c = '\\' then String.ofList ['\'', c, '\'']
  else if c = '\n' then "\"\"\"\n\n\"\"\""
  else if c < ' ' || c = '\x7f' then "\"" ++ escapeControl c ++ "\""
  else String.ofList ['"', c, '"']

/-- A line for a choice that is made. -/
def line (key : String) (value : Option String) : String :=
  match value with
  | none => ""
  | some written => key ++ " = " ++ written ++ "\n"

/-- The settings as text; open choices are left out. -/
def text (settings : Settings) : String :=
  line "filler" (settings.filler.map characterText)
    ++ line "guard_own_namespace" (settings.guardsOwn.map toString)
    ++ line "strict" (settings.isStrict.map toString)

/-- The settings in a file; none if there is no such file. -/
def load {m : Type → Type} [Monad m] (files : FileAccess m) (path : Option String) :
    m (Except CommandError (Option Settings)) := do
  let place := path.getD defaultPath
  if !(← files.isPresent place) then return .ok none
  match ← files.readText place with
  | .error cause => return .error (.file cause)
  | .ok content => return (read content).map some

/-- Writes the settings. Something that is there is overwritten only by force. -/
def save {m : Type → Type} [Monad m] (files : FileAccess m) (path : String) (settings : Settings)
    (force : Bool) : m (Except CommandError Unit) := do
  if (← files.isPresent path) && !force then return .error (.settingsPresent path)
  match ← files.writeText path settings.text with
  | .error cause => return .error (.file cause)
  | .ok () => return .ok ()

end Settings

end NameAssignment
