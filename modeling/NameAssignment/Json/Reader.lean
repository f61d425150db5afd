import NameAssignment.Document
import NameAssignment.Document.Reader
import NameAssignment.Number.Double
import NameAssignment.Text.Digits

/-!
Reading JSON.

The grammar is the strict one: no comments, no trailing commas, no byte order mark, and only the
four blank characters between tokens. Beyond the grammar, an escaped surrogate must be one of a
pair, a number must not be too large for a double, and lists and objects nest 127 deep at most.
-/

namespace NameAssignment.Json

open Reader

def isBlank (c : Char) : Bool := c = ' ' || c = '\n' || c = '\r' || c = '\t'

def skipBlanks : Reader Unit := discard (takeWhile isBlank)

/-- How deep lists and objects may nest. -/
def maxDepth : Nat := 127

/-- The four hexadecimal digits of an escape. -/
def codeUnit : Reader Nat := Digits.hexadecimal <$> exactly 4 Digits.isHex

/-- The character of an escape by code unit; a high surrogate needs the low one after it. -/
def escapedUnit : Reader Char := do
  let unit ← codeUnit
  if 0xD800 ≤ unit ∧ unit ≤ 0xDBFF then
    literal "\\u"
    let low ← codeUnit
    unless 0xDC00 ≤ low ∧ low ≤ 0xDFFF do failure
    return Char.ofNat (0x10000 + (unit - 0xD800) * 0x400 + (low - 0xDC00))
  else if 0xDC00 ≤ unit ∧ unit ≤ 0xDFFF then failure
  else return Char.ofNat unit

/-- What follows a backslash. -/
def escape : Reader Char := do
  match ← next with
  | '"' => return '"'
  | '\\' => return '\\'
  | '/' => return '/'
  | 'b' => return '\x08'
  | 'f' => return '\x0c'
  | 'n' => return '\n'
  | 'r' => return '\r'
  | 't' => return '\t'
  | 'u' => escapedUnit
  | _ => failure

/-- A string, from its opening quote to its closing one. Controls must be escaped. -/
def string : Reader String := do
  char '"'
  let characters ← many do
    match ← next with
    | '"' => return none
    | '\\' => return some (← escape)
    | c => if c < ' ' then failure else return some c
  return String.ofList characters

/-- Significands are below this, and so fit in 64 bits. -/
def wordLimit : Nat := 18446744073709551616

/-- A significand of at most 64 bits and a power of ten. -/
structure Scaled where
  significand : Nat
  exponent : Int

/-- Appends the digits of the integer part. From the first that does not fit, each only scales. -/
def Scaled.ofInteger (digits : List Char) : Scaled :=
  (digits.foldl (fun (scaled, full) digit =>
    let grown := scaled.significand * 10 + Digits.value digit
    if full || grown ≥ wordLimit then ({ scaled with exponent := scaled.exponent + 1 }, true)
    else ({ scaled with significand := grown }, false)) (⟨0, 0⟩, false)).1

/-- Appends the digits after the point. From the first that does not fit, all are dropped. -/
def Scaled.addFraction (scaled : Scaled) : List Char → Scaled
  | [] => scaled
  | digit :: rest =>
    let grown := scaled.significand * 10 + Digits.value digit
    if grown ≥ wordLimit then scaled
    else addFraction ⟨grown, scaled.exponent - 1⟩ rest

/-- The exponent part: its sign and its digits. -/
def exponentPart : Reader (Option (Bool × List Char)) := do
  match ← peek? with
  | some 'e' | some 'E' =>
    discard next
    let negative ← accept '-'
    unless negative do discard (accept '+')
    return some (negative, ← takeWhile1 Char.isDigit)
  | _ => return none

/-- A number, as it is written. -/
def number : Reader String := do
  let start ← get
  discard (accept '-')
  let whole ← takeWhile1 Char.isDigit
  if whole.head? = some '0' ∧ whole.length > 1 then failure
  let fraction ← if ← accept '.' then takeWhile1 Char.isDigit else pure []
  let exponent ← exponentPart
  let scaled := (Scaled.ofInteger whole).addFraction fraction
  let power : Int := match exponent with
    | none => 0
    | some (negative, digits) =>
      let value : Int := Digits.decimal digits
      if negative then -value else value
  if Double.productExceeds scaled.significand (scaled.exponent + power) then failure
  return String.ofList (start.take (start.length - (← get).length))

/-- The items between two brackets, separated by commas. -/
def between {α : Type} (opening closing : Char) (item : Reader α) : Reader (List α) := do
  char opening
  skipBlanks
  if ← accept closing then return []
  let first ← item
  let rest ← many do
    skipBlanks
    if ← accept closing then return none
    char ','
    skipBlanks
    return some (← item)
  return first :: rest

/-- One field of an object. -/
def field (value : Reader Document) : Reader (String × Document) := do
  let key ← string
  skipBlanks
  char ':'
  skipBlanks
  return (key, ← value)

/-- A value that holds no others. -/
def scalar : Reader Document := do
  match ← peek? with
  | some 'n' => literal "null"; return .null
  | some 't' => literal "true"; return .truth true
  | some 'f' => literal "false"; return .truth false
  | some '"' => return .text (← string)
  | some c => if c = '-' || c.isDigit then return .number (← number) else failure
  | none => failure

/-- A value in which lists and objects nest as deep as the first argument says. -/
def value : Nat → Reader Document
  | 0 => scalar
  | depth + 1 => do
    match ← peek? with
    | some '[' => return .list (← between '[' ']' (value depth))
    | some '\x7b' => return .table (← between '\x7b' '\x7d' (field (value depth)))
    | _ => scalar

/-- The value a text holds, with blanks around it. -/
def read : String → Option Document :=
  readAll do
    skipBlanks
    let document ← value maxDepth
    skipBlanks
    return document

end NameAssignment.Json
