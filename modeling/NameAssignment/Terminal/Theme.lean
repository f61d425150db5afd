/-!
Themes: how the parts of terminal output are coloured.

A theme gives every role the codes of its style. A styled text stands between the codes and a
reset, even when it is empty; a role without codes leaves the text alone.
-/

namespace NameAssignment.Terminal

/-- What a piece of output is. -/
inductive Role
  | header
  | success
  | error
  | warning
  | info
  | dim
  /-- A name that was assigned. -/
  | name
  /-- A name that was given. -/
  | fixed
  deriving DecidableEq, Repr

/-- The style codes of every role, if it has any. -/
abbrev Theme := Role → Option String

def Theme.plain : Theme := fun _ => none

def Theme.colored : Theme
  | .header => some "36;1"
  | .success => some "32;1"
  | .error => some "31;1"
  | .warning => some "33;1"
  | .info => some "35"
  | .dim => some "37;2"
  | .name => some "32"
  | .fixed => some "90"

/-- Colours are for a terminal only. -/
def Theme.detect (isTerminal : Bool) : Theme := if isTerminal then .colored else .plain

/-- A text in the style of a role. -/
def Theme.paint (theme : Theme) (role : Role) (text : String) : String :=
  match theme role with
  | none => text
  | some codes => "\x1b[" ++ codes ++ "m" ++ text ++ "\x1b[0m"

end NameAssignment.Terminal
