/-!
Documents: what a text in a data format says, whichever format it is.

A table keeps its fields in the order in which they were written and keeps repeated keys; whether
a repetition is a mistake is for the reader of the table to say. Numbers and dates keep the text
they were written with, since nothing here calculates with them.
-/

namespace NameAssignment

/-- A value in a data format. -/
inductive Document
  | null
  | truth (value : Bool)
  | number (written : String)
  | moment (written : String)
  | text (value : String)
  | list (items : List Document)
  | table (fields : List (String × Document))
  deriving Inhabited, Repr

namespace Document

def text? : Document → Option String
  | .text value => some value
  | _ => none

def truth? : Document → Option Bool
  | .truth value => some value
  | _ => none

def list? : Document → Option (List Document)
  | .list items => some items
  | _ => none

def table? : Document → Option (List (String × Document))
  | .table fields => some fields
  | _ => none

/-- A list in which every item can be read. -/
def listOf? {α : Type} (read : Document → Option α) (document : Document) : Option (List α) :=
  document.list? >>= (·.mapM read)

def texts? : Document → Option (List String) := listOf? text?

/-- A text of one character. -/
def character? (document : Document) : Option Char :=
  match document.text?.map String.toList with
  | some [c] => some c
  | _ => none

def texts (values : List String) : Document := .list (values.map .text)

end Document

end NameAssignment
