import NameAssignment.Terminal.Grid
import NameAssignment.Terminal.Theme

/-!
What a command prints: text for standard output and text for standard error, made of marked lines
and tables.
-/

namespace NameAssignment.Terminal

/-- Printed text, by where it goes. -/
structure Output where
  out : String := ""
  err : String := ""
  deriving DecidableEq, Repr

namespace Output

/-- One text after the other. -/
instance : Append Output := ⟨fun first second => ⟨first.out ++ second.out, first.err ++ second.err⟩⟩

/-- A line on standard output. -/
def line (text : String) : Output := { out := text ++ "\n" }

/-- A line on standard error. -/
def complaint (text : String) : Output := { err := text ++ "\n" }

def header (theme : Theme) (text : String) : Output :=
  line ("🚀 " ++ theme.paint .header text)

def success (theme : Theme) (text : String) : Output :=
  line ("✅ " ++ theme.paint .success text)

def error (theme : Theme) (text : String) : Output :=
  complaint ("❌ " ++ theme.paint .error text)

def warning (theme : Theme) (text : String) : Output :=
  complaint ("⚠️ " ++ theme.paint .warning text)

def info (theme : Theme) (label value : String) : Output :=
  line (theme.paint .info "ℹ️" ++ " " ++ theme.paint .dim label ++ ": " ++ value)

def summary (theme : Theme) (label value : String) : Output :=
  line ("  " ++ theme.paint .dim label ++ " " ++ value)

end Output

/-- A table of measurements. -/
def statsTable (rows : List (String × String)) : String :=
  grid ["Metric", "Value"] (rows.map fun (metric, value) => [metric, value])

/-- A table of the names that were assigned. -/
def assignmentTable (theme : Theme) (report : Report) : String :=
  grid ["Namespace", "Entity", "Kind", "Name"] (report.assignments.map fun row =>
    [row.home, row.entity, row.kind,
      theme.paint (if row.kind = "fixed" then .fixed else .name) row.name])

/-- A table of the entities without a name. -/
def unresolvedTable (report : Report) : String :=
  grid ["Namespace", "Entity", "Waiting on", "Blocked by"] (report.unresolved.map fun row =>
    [row.home, row.entity, String.intercalate ", " row.waitingOn,
      String.intercalate ", " row.blockedBy])

end NameAssignment.Terminal
