import NameAssignment.Json.Printer
import NameAssignment.Manifest.Read
import NameAssignment.Settings
import NameAssignment.Terminal.Output

/-!
The three commands: naming what a manifest describes, checking a manifest, and writing settings.

A command answers with what it prints and how it ended. What was printed before a failure is
printed.
-/

namespace NameAssignment

open Terminal (Output Theme)

/-- The manifest in a file. A file is read as JSON if its extension is exactly `json`. -/
def Manifest.load {m : Type → Type} [Monad m] (files : FileAccess m) (path : String) :
    m (Except Error Manifest) := do
  match ← files.readText path with
  | .error cause => return .error (.file cause)
  | .ok text =>
    let format := if Path.extension? path = some "json" then .json else .toml
    return Manifest.read format text

namespace Command

/-- How a report is printed. -/
inductive Style
  | text
  | json
  deriving DecidableEq, Repr

/-- What a command printed, and the error it ended with if it failed. -/
structure Answer where
  output : Output
  failure : Option CommandError

def Answer.success (output : Output) : Answer := ⟨output, none⟩

def Answer.failed (failure : CommandError) : Answer := ⟨{}, some failure⟩

/-- The choices of a resolving command. -/
structure ResolveChoices where
  filler : Char
  isGuarded : Bool
  isStrict : Bool

/-- A report for people. -/
def showReport (theme : Theme) (path : String) (report : Report) : Output :=
  let table := Terminal.assignmentTable theme report
  .header theme ("Resolved " ++ path)
    ++ (if table.isEmpty then {} else .line table)
    ++ .summary theme "Named:" (toString report.assignments.length)
    ++ .summary theme "Rounds:" (toString report.rounds)
    ++ if report.isComplete then .success theme "Every entity has a name"
      else
        .warning theme (toString report.unresolved.length ++ " entities could not be named")
          ++ .line (Terminal.unresolvedTable report)

/-- The report on a manifest. -/
def reportOn (manifest : Manifest) (choices : ResolveChoices) : Except Error Report := do
  let built ← manifest.build choices.filler
  let resolution ← (built.resolve choices.isGuarded).result
  return .ofResolution built resolution

/-- Names everything a manifest describes and prints the report. -/
def resolve {m : Type → Type} [Monad m] (files : FileAccess m) (theme : Theme) (path : String)
    (choices : ResolveChoices) (style : Style) : m Answer := do
  match (← Manifest.load files path) >>= (reportOn · choices) with
  | .error cause => return .failed (.cause cause)
  | .ok report =>
    let output := match style with
      | .text => showReport theme path report
      | .json => .line (Json.pretty report.toDocument)
    if choices.isStrict && !report.isComplete then
      return ⟨output, some (.stalled report.unresolved.length)⟩
    else return .success output

/-- The size of a graph, for people. -/
def showSizes (theme : Theme) (path : String) (manifest : Manifest) (built : BuiltManifest) :
    Output :=
  let edges := built.graph.edgeCount
  .header theme ("📄 " ++ path)
    ++ .line (Terminal.statsTable [
      ("Namespaces", toString built.graph.namespaces.size),
      ("Roots", toString built.roots.length),
      ("Entities", toString built.graph.entities.size),
      ("Declared namers", toString manifest.functions.size),
      ("Dependency edges", toString edges)])
    ++ .info theme "🔗 Valid" (theme.paint .dim "all references resolve")

/-- Checks that a manifest describes a graph. -/
def check {m : Type → Type} [Monad m] (files : FileAccess m) (theme : Theme) (path : String) :
    m Answer := do
  match ← Manifest.load files path with
  | .error cause => return .failed (.cause cause)
  | .ok manifest =>
    match manifest.build Counting.defaultFiller with
    | .error cause => return ⟨.error theme cause.message, some (.cause cause)⟩
    | .ok built => return .success (showSizes theme path manifest built)

/-- Writes a settings file in which every choice is made. -/
def init {m : Type → Type} [Monad m] (files : FileAccess m) (theme : Theme) (path : String)
    (force : Bool) : m Answer := do
  match ← Settings.save files path .standard force with
  | .error failure => return .failed failure
  | .ok () => return .success (.success theme ("Wrote " ++ path))

end Command

end NameAssignment
