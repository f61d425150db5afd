import NameAssignment.Document

/-!
The tables of a TOML document while it is being read.

A table remembers how it came to be, because that decides what may still be added to it: a table
with its own header is complete once the next header comes; one that was only passed through on
the way to another header can get its own header later; one made by a dotted key can only be
extended by dotted keys, or get tables below it. A value, inline tables included, is closed.
-/

namespace NameAssignment.Toml

/-- How a table came to be. -/
inductive Origin
  /-- By a header of its own, or it is the document or inline table itself. -/
  | header
  /-- On the way to the table of a longer header. -/
  | implied
  /-- On the way to the value of a dotted key. -/
  | dotted
  deriving DecidableEq, Repr

/-- What stands under a key. -/
inductive Node
  | leaf (value : Document)
  | table (origin : Origin) (entries : List (String × Node))
  /-- Tables that share a repeated header; the last is the one being filled. -/
  | tables (elements : List (List (String × Node)))

abbrev Entries := List (String × Node)

namespace Entries

/-- Puts a node in the place of the one under a key. -/
def put (entries : Entries) (key : String) (node : Node) : Entries :=
  entries.map fun entry => if entry.1 = key then (key, node) else entry

/-- Adds a node under a new key. -/
def append (entries : Entries) (key : String) (node : Node) : Entries :=
  entries ++ [(key, node)]

/-- Follows `path` down from a table of the given origin and changes what is there. Tables that
are missing are made, with origin `made`. A dotted key may not enter a table that has a header. -/
def change (made : Origin) (edit : Origin → Entries → Option Entries) :
    List String → Origin → Entries → Option Entries
  | [], origin, entries => edit origin entries
  | key :: path, _, entries =>
    match entries.lookup key with
    | none =>
      (change made edit path made []).map fun inner => entries.append key (.table made inner)
    | some (.leaf _) => none
    | some (.table origin inner) =>
      if made = .dotted ∧ origin = .header then none
      else (change made edit path origin inner).map fun inner =>
        entries.put key (.table origin inner)
    | some (.tables elements) =>
      (change made edit path .header (elements.getLast?.getD [])).map fun inner =>
        entries.put key (.tables (elements.dropLast ++ [inner]))

/-- Splits a key into what leads to the last part and the last part. -/
def splitKey : List String → Option (List String × String)
  | [] => none
  | parts => parts.getLast?.map fun last => (parts.dropLast, last)

/-- Adds a value under a dotted key. A key of several parts must end in a table that dotted keys
made, and the last part must be new there. -/
def addValue (key : List String) (value : Document) (origin : Origin) (entries : Entries) :
    Option Entries := do
  let (path, last) ← splitKey key
  change .dotted (fun found inner =>
    if decide (found = .dotted) = path.isEmpty then none
    else if (inner.lookup last).isSome then none
    else some (Entries.append inner last (.leaf value))) path origin entries

/-- Opens the table of a header: a new one, or one that was only passed through so far. -/
def openTable (key : List String) (entries : Entries) : Option Entries := do
  let (path, last) ← splitKey key
  change .implied (fun _ inner =>
    match inner.lookup last with
    | none => some (Entries.append inner last (.table .header []))
    | some (.table .implied below) => some (Entries.put inner last (.table .header below))
    | _ => none) path .header entries

/-- Opens one more table of a repeated header. -/
def openElement (key : List String) (entries : Entries) : Option Entries := do
  let (path, last) ← splitKey key
  change .implied (fun _ inner =>
    match inner.lookup last with
    | none => some (Entries.append inner last (.tables [[]]))
    | some (.tables elements) => some (Entries.put inner last (.tables (elements ++ [[]])))
    | _ => none) path .header entries

/-- Adds a value to the table that the last header opened. -/
def addUnder (header key : List String) (value : Document) (entries : Entries) : Option Entries :=
  change .implied (addValue key value) header .header entries

end Entries

mutual

/-- The document under a key, once nothing more is added. -/
def Node.toDocument : Node → Document
  | .leaf value => value
  | .table _ entries => .table (fieldsOf entries)
  | .tables elements => .list (itemsOf elements)

def fieldsOf : List (String × Node) → List (String × Document)
  | [] => []
  | (key, node) :: rest => (key, node.toDocument) :: fieldsOf rest

def itemsOf : List (List (String × Node)) → List Document
  | [] => []
  | entries :: rest => .table (fieldsOf entries) :: itemsOf rest

end

end NameAssignment.Toml
