import NameAssignment.Command
import NameAssignment.CommandLine.Options

/-!
The command line: which command its arguments call, and what a call answers.

A call that cannot be understood ends with code 2 and a failed command with code 1; both leave
standard output to what the command itself printed.
-/

namespace NameAssignment.CommandLine

open Terminal (Output Theme)

/-- What arguments can call. -/
inductive Call
  | resolve (manifest : String) (style : Command.Style) (isStrict noGuard : Bool)
      (filler : Option Char) (settings : Option String)
  | check (manifest : String)
  | init (path : String) (force : Bool)
  deriving DecidableEq, Repr

def helpRule : OptionRule := ⟨some 'h', "help", .stop .help⟩

def verboseRule : OptionRule := ⟨some 'v', "verbose", .flag⟩

def isPath (value : String) : Bool := value ≠ ""

def style? : String → Option Command.Style
  | "text" => some .text
  | "json" => some .json
  | _ => none

/-- A text that is one character. -/
def character? (value : String) : Option Char :=
  match value.toList with
  | [c] => some c
  | _ => none

def resolveRules : Rules where
  positionals := 1
  options := [helpRule, verboseRule,
    ⟨some 'f', "format", .value fun value => (style? value).isSome⟩,
    ⟨none, "strict", .flag⟩,
    ⟨none, "no-guard", .flag⟩,
    ⟨none, "filler", .value fun value => (character? value).isSome⟩,
    ⟨some 'c', "config", .value isPath⟩]

def checkRules : Rules where
  positionals := 1
  options := [helpRule, verboseRule]

def initRules : Rules where
  positionals := 0
  options := [helpRule, verboseRule,
    ⟨some 'p', "path", .value isPath⟩,
    ⟨none, "force", .flag⟩]

/-- The options in front of a command's name. -/
def outerRules : Rules where
  positionals := 0
  options := [helpRule, ⟨some 'V', "version", .stop .version⟩, verboseRule]

/-- The one argument that stands for itself. -/
def onlyPositional (found : Found) : Except Stop String :=
  match found.positionals with
  | [argument] => .ok argument
  | _ => .error .misuse

/-- The names of the commands. -/
def commandNames : List String := ["resolve", "check", "init", "help"]

/-- The call of a command with the arguments after its name. -/
def callOf (name : String) (arguments : List String) : Except Stop Call :=
  match name with
  | "resolve" => do
    let found ← scan resolveRules false {} arguments
    let style := (found.value? "format" >>= style?).getD .text
    let filler := found.value? "filler" >>= character?
    return .resolve (← onlyPositional found) style (found.has "strict") (found.has "no-guard")
      filler (found.value? "config")
  | "check" => do
    return .check (← onlyPositional (← scan checkRules false {} arguments))
  | "init" => do
    let found ← scan initRules false {} arguments
    return .init ((found.value? "path").getD Settings.defaultPath) (found.has "force")
  | "help" =>
    match arguments with
    | [] => .error .help
    | [command] => .error (if commandNames.contains command then .help else .misuse)
    | _ => .error .misuse
  | _ => .error .misuse

/-- The call that arguments make. Options in front of the command's name are read first. -/
def parse : Found → List String → Except Stop Call
  | _, [] => .error .misuse
  | found, argument :: rest =>
    match option? outerRules found argument with
    | none => callOf argument rest
    | some step => do parse (← step).found rest

/-- How a call ended: its code and what it printed. -/
structure Outcome where
  code : Nat
  output : Output

/-- The name and version of the program. -/
def version : String := "namegraph 0.0.1"

/-- The choices of a resolving command: what is said on the command line goes before what the
settings say, but strictness adds up. -/
def choices (settings : Settings) (isStrict noGuard : Bool) (filler : Option Char) :
    Command.ResolveChoices where
  filler := filler.getD settings.effectiveFiller
  isGuarded := settings.effectiveGuard && !noGuard
  isStrict := isStrict || settings.effectiveStrict

/-- Carries out a call. -/
def perform {m : Type → Type} [Monad m] (files : FileAccess m) (theme : Theme) :
    Call → m Command.Answer
  | .resolve manifest style isStrict noGuard filler settingsPath => do
    match ← Settings.load files settingsPath with
    | .error failure => return .failed failure
    | .ok settings =>
      Command.resolve files theme manifest
        (choices (settings.getD {}) isStrict noGuard filler) style
  | .check manifest => Command.check files theme manifest
  | .init path force => Command.init files theme path force

/-- An answer as the outcome of the program; a failure is said on standard error. -/
def outcomeOf (answer : Command.Answer) : Outcome :=
  match answer.failure with
  | none => ⟨0, answer.output⟩
  | some failure => ⟨1, answer.output ++ .complaint ("Error: " ++ failure.message)⟩

/-- Runs the program on its arguments. -/
def run {m : Type → Type} [Monad m] (files : FileAccess m) (theme : Theme)
    (arguments : List String) : m Outcome := do
  match parse {} arguments with
  | .error .misuse => return ⟨2, {}⟩
  | .error .help => return ⟨0, {}⟩
  | .error .version => return ⟨0, .line version⟩
  | .ok call => return outcomeOf (← perform files theme call)

end NameAssignment.CommandLine
