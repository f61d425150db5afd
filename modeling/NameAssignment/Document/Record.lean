import NameAssignment.Document

/-!
Records: documents with a fixed list of fields.

A record can be written as a table, or as a list of the values of its fields in order, where the
last ones may be left out. In a table a field may come once only; keys that are no fields are
either refused or passed over.
-/

namespace NameAssignment.Document

/-- What is done about the parts of a record that are no fields of it. -/
structure RecordPolicy where
  /-- Keys in a table that are no fields are refused. -/
  closedTable : Bool
  /-- Values in a list after the last field are refused. -/
  closedList : Bool

/-- The fields of a record that are given, by name. -/
def record? (policy : RecordPolicy) (names : List String) : Document →
    Option (List (String × Document))
  | .table fields =>
    let known := fields.filter fun field => names.contains field.1
    if policy.closedTable ∧ known.length ≠ fields.length then none
    else if (known.map (·.1)).Nodup then some known
    else none
  | .list items =>
    if policy.closedList ∧ names.length < items.length then none
    else some (names.zip items)
  | _ => none

/-- A field that must be given. -/
def required? {α : Type} (fields : List (String × Document)) (name : String)
    (read : Document → Option α) : Option α :=
  fields.lookup name >>= read

/-- A field with a value to fall back on. -/
def defaulted? {α : Type} (fields : List (String × Document)) (name : String)
    (read : Document → Option α) (fallback : α) : Option α :=
  match fields.lookup name with
  | none => some fallback
  | some value => read value

/-- A field that may be left out or be null. -/
def nullable? {α : Type} (fields : List (String × Document)) (name : String)
    (read : Document → Option α) : Option (Option α) :=
  match fields.lookup name with
  | none | some .null => some none
  | some value => (read value).map some

end NameAssignment.Document
