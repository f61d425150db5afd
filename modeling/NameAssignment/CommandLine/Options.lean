/-!
Options on a command line: flags and values, by short or long name, among other arguments.

Short names stand behind one dash, several together if they like, and the last may have its value
attached. Long names stand behind two dashes, with the value after an equals sign or as the next
argument. A value given as the next argument cannot begin with a dash, unless it is a dash and
nothing else. Two dashes alone end the options. No option comes twice.
-/

namespace NameAssignment.CommandLine

/-- Why the arguments are not read to their end. -/
inductive Stop
  /-- They are no correct call. -/
  | misuse
  /-- Help is asked for. -/
  | help
  /-- The version is asked for. -/
  | version
  deriving DecidableEq, Repr

/-- What an option does. -/
inductive OptionKind
  /-- It is there or not. -/
  | flag
  /-- It has a value, which must be acceptable. -/
  | value (accepts : String → Bool)
  /-- It ends the reading. -/
  | stop (reason : Stop)

structure OptionRule where
  short : Option Char
  long : String
  kind : OptionKind

/-- The arguments that a command takes. -/
structure Rules where
  options : List OptionRule
  /-- How many arguments can stand for themselves. -/
  positionals : Nat

/-- The arguments found so far. -/
structure Found where
  flags : List String := []
  values : List (String × String) := []
  positionals : List String := []
  deriving DecidableEq, Repr

namespace Found

def has (found : Found) (flag : String) : Bool := found.flags.contains flag

def value? (found : Found) (name : String) : Option String := found.values.lookup name

/-- Enters a flag that has not come before. -/
def addFlag (found : Found) (name : String) : Except Stop Found :=
  if found.has name then .error .misuse
  else .ok { found with flags := found.flags ++ [name] }

/-- Enters an acceptable value of an option that has not come before. -/
def addValue (found : Found) (name : String) (accepts : String → Bool) (value : String) :
    Except Stop Found :=
  if (found.value? name).isSome || !accepts value then .error .misuse
  else .ok { found with values := found.values ++ [(name, value)] }

/-- Enters an argument that stands for itself. It cannot be empty. -/
def addPositional (found : Found) (rules : Rules) (argument : String) : Except Stop Found :=
  if found.positionals.length < rules.positionals && argument ≠ "" then
    .ok { found with positionals := found.positionals ++ [argument] }
  else .error .misuse

end Found

/-- An option that has been read; `awaiting` says whose value the next argument has to be. -/
structure Step where
  found : Found
  awaiting : Option (String × (String → Bool)) := none

/-- Reads short options that stand together. -/
def shorts (rules : Rules) (found : Found) : List Char → Except Stop Step
  | [] => .ok { found }
  | c :: rest =>
    match rules.options.find? (·.short = some c) with
    | none => .error .misuse
    | some rule =>
      match rule.kind with
      | .stop reason => .error reason
      | .flag => do shorts rules (← found.addFlag rule.long) rest
      | .value accepts =>
        match rest with
        | [] => .ok { found, awaiting := some (rule.long, accepts) }
        | '=' :: value => do
          return { found := ← found.addValue rule.long accepts (String.ofList value) }
        | value => do
          return { found := ← found.addValue rule.long accepts (String.ofList value) }

/-- Reads a long option, the dashes removed. -/
def long (rules : Rules) (found : Found) (text : List Char) : Except Stop Step :=
  let name := String.ofList (text.takeWhile (· ≠ '='))
  let attached := match text.dropWhile (· ≠ '=') with
    | [] => none
    | _ :: value => some (String.ofList value)
  match rules.options.find? (·.long = name), attached with
  | none, _ => .error .misuse
  | some rule, attached =>
    match rule.kind, attached with
    | .stop reason, none => .error reason
    | .flag, none => do return { found := ← found.addFlag rule.long }
    | .value accepts, none => .ok { found, awaiting := some (rule.long, accepts) }
    | .value accepts, some value => do
      return { found := ← found.addValue rule.long accepts value }
    | _, some _ => .error .misuse

/-- Whether an argument can be a value although options are still read. -/
def isPlainArgument (argument : String) : Bool :=
  match argument.toList with
  | '-' :: _ :: _ => false
  | _ => true

/-- Reads one option, or nothing of the kind. -/
def option? (rules : Rules) (found : Found) (argument : String) : Option (Except Stop Step) :=
  match argument.toList with
  | '-' :: '-' :: text => some (long rules found text)
  | '-' :: c :: rest => some (shorts rules found (c :: rest))
  | _ => none

/-- Reads arguments to their end. -/
def scan (rules : Rules) : Bool → Found → List String → Except Stop Found
  | _, found, [] => .ok found
  | true, found, argument :: rest => do
    scan rules true (← found.addPositional rules argument) rest
  | false, found, "--" :: rest => scan rules true found rest
  | false, found, argument :: rest =>
    match option? rules found argument with
    | none => do scan rules false (← found.addPositional rules argument) rest
    | some step => do
      let { found, awaiting } ← step
      match awaiting, rest with
      | none, rest => scan rules false found rest
      | some _, [] => .error .misuse
      | some (name, accepts), value :: rest =>
        if isPlainArgument value then do
          scan rules false (← found.addValue name accepts value) rest
        else .error .misuse

end NameAssignment.CommandLine
