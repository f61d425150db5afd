import NameAssignment.Toml.Number
import NameAssignment.Toml.Tree

/-!
Reading TOML, version 1.0.

A document is a sequence of lines: a header in brackets, a repeated header in double brackets, or
a key with its value, which goes to the table of the last header. Lists and inline tables nest 79
deep at most.
-/

namespace NameAssignment.Toml

open Reader

/-- How deep lists and inline tables may nest. -/
def maxDepth : Nat := 79

/-- A value that holds no others. -/
def scalar : Reader Document := do
  match ← peek? with
  | some '"' | some '\'' => return .text (← string)
  | some 't' => literal "true"; return .truth true
  | some 'f' => literal "false"; return .truth false
  | some 'i' | some 'n' => return .number (← written special)
  | some c => if c = '+' || c = '-' || c.isDigit then numberOrMoment else failure
  | none => failure

/-- A list, whose items may stand on several lines and end with a comma. -/
def list (value : Reader Document) : Reader (List Document) := do
  char '['
  let items ← many do
    skipLines
    if (← peek?) = some ']' then return none
    let item ← value
    skipLines
    unless ← accept ',' do
      unless (← peek?) = some ']' do failure
    return some item
  char ']'
  return items

/-- A key, its equals sign and its value. -/
def pair (value : Reader Document) : Reader (List String × Document) := do
  let path ← key
  char '='
  skipBlanks
  return (path, ← value)

/-- An inline table, on one line and without a comma at its end. -/
def inlineTable (value : Reader Document) : Reader Document := do
  char '\x7b'
  skipBlanks
  if ← accept '\x7d' then return .table []
  let item : Reader (List String × Document) := do
    let found ← pair value
    skipBlanks
    return found
  let first ← item
  let rest ← many do
    if ← accept ',' then return some (← item) else return none
  char '\x7d'
  let entries ← (first :: rest).foldlM (fun entries (path, value) =>
    (Entries.addValue path value .header entries : Option Entries)) []
  return .table (fieldsOf entries)

/-- A value in which lists and inline tables nest as deep as the first argument says. -/
def value : Nat → Reader Document
  | 0 => scalar
  | depth + 1 => do
    match ← peek? with
    | some '[' => return .list (← list (value depth))
    | some '\x7b' => inlineTable (value depth)
    | _ => scalar

/-- The tables read so far, and the header whose table is being filled. -/
structure Progress where
  root : Entries
  header : List String

/-- A header in brackets or double brackets. -/
def headerLine (progress : Progress) : Reader Progress := do
  char '['
  if ← accept '[' then
    let path ← key
    literal "]]"
    restOfLine
    let root ← (progress.root.openElement path : Option Entries)
    return ⟨root, path⟩
  else
    let path ← key
    char ']'
    restOfLine
    let root ← (progress.root.openTable path : Option Entries)
    return ⟨root, path⟩

/-- A key with its value. -/
def pairLine (progress : Progress) : Reader Progress := do
  let (path, found) ← pair (value maxDepth)
  restOfLine
  let root ← (progress.root.addUnder progress.header path found : Option Entries)
  return { progress with root }

/-- The next line; none at the end. -/
def line (progress : Progress) : Reader (Option Progress) := do
  skipBlanks
  match ← peek? with
  | none => return none
  | some '[' => return some (← headerLine progress)
  | some '#' | some '\n' | some '\r' => restOfLine; return some progress
  | some _ => return some (← pairLine progress)

/-- The table a text describes. A byte order mark may stand in front. -/
def read : String → Option Document :=
  readAll do
    discard (accept '\ufeff')
    let progress ← steps line ⟨[], []⟩
    return .table (fieldsOf progress.root)

end NameAssignment.Toml
