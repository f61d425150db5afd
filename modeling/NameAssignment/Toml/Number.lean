import NameAssignment.Document
import NameAssignment.Number.Double
import NameAssignment.Toml.Text

/-!
Reading the numbers, dates and times of TOML.

What begins with a digit or a sign is tried as a date or time first, then as a number with a
fraction or an exponent, then as an integer. Integers must fit in 64 bits with a sign, and a
positive number must not be too large for a double.
-/

namespace NameAssignment.Toml

open Reader

/-! ## Dates and times -/

/-- A decimal number of exactly `count` digits between two bounds. -/
def bounded (count lower upper : Nat) : Reader Nat := do
  let value := Digits.decimal (← exactly count Char.isDigit)
  if lower ≤ value ∧ value ≤ upper then return value else failure

def isLeapYear (year : Nat) : Bool :=
  year % 4 = 0 && (year % 100 ≠ 0 || year % 400 = 0)

def daysIn (year month : Nat) : Nat :=
  if month = 2 then (if isLeapYear year then 29 else 28)
  else if month = 4 || month = 6 || month = 9 || month = 11 then 30
  else 31

def date : Reader Unit := do
  let year ← bounded 4 0 9999
  char '-'
  let month ← bounded 2 1 12
  char '-'
  discard (bounded 2 1 (daysIn year month))

/-- Hours, minutes and seconds; the last second may be a leap second. -/
def time : Reader Unit := do
  discard (bounded 2 0 23)
  char ':'
  discard (bounded 2 0 59)
  char ':'
  discard (bounded 2 0 60)
  discard (attempt (do char '.'; discard (takeWhile1 Char.isDigit)))

/-- The distance from universal time: a letter, or a sign with hours and minutes. -/
def offset : Reader Unit := do
  match ← next with
  | 'Z' | 'z' => return ()
  | '+' | '-' =>
    discard (bounded 2 0 23)
    char ':'
    discard (bounded 2 0 59)
  | _ => failure

/-- What can follow a date: a letter or a blank, a time of day, and an optional distance from
universal time. -/
def timeOfDay : Reader Unit := do
  discard (nextIf fun c => c = 'T' || c = 't' || c = ' ')
  time
  match ← peek? with
  | some 'Z' | some 'z' | some '+' | some '-' => offset
  | _ => return ()

/-- A date, a date with a time, or a time. -/
def moment : Reader Unit := do
  match ← attempt date with
  | some _ => discard (attempt timeOfDay)
  | none => time

/-! ## Numbers -/

/-- Digits that may have single underscores between them. -/
def digits (isDigit : Char → Bool) : Reader (List Char) := do
  let first ← takeWhile1 isDigit
  let rest ← many do
    if ← accept '_' then return some (← takeWhile1 isDigit) else return none
  return first ++ rest.flatten

/-- An optional sign; true for a minus. -/
def sign : Reader Bool := do
  if ← accept '-' then return true
  discard (accept '+')
  return false

/-- A sign and a whole number without leading zeros. -/
def whole : Reader (Bool × List Char) := do
  let negative ← sign
  if (← peek?) = some '0' then
    discard next
    return (negative, ['0'])
  else return (negative, ← digits Char.isDigit)

def exponent : Reader Int := do
  discard (nextIf fun c => c = 'e' || c = 'E')
  let negative ← sign
  let magnitude : Int := Digits.decimal (← digits Char.isDigit)
  return if negative then -magnitude else magnitude

/-- A number with a fraction, an exponent or both. -/
def float : Reader Unit := do
  let (negative, integral) ← whole
  let (fraction, power) ←
    if ← accept '.' then
      let fraction ← digits Char.isDigit
      match ← peek? with
      | some 'e' | some 'E' => pure (fraction, ← exponent)
      | _ => pure (fraction, 0)
    else pure ([], ← exponent)
  let significand := Digits.decimal (integral ++ fraction)
  if !negative && Double.exceeds significand (power - fraction.length) then failure

/-- Infinity or not a number, with an optional sign. -/
def special : Reader Unit := do
  discard sign
  literal "inf" <|> literal "nan"

/-- Integers are below this and not below its negative, and so fit in 64 bits with a sign. -/
def integerLimit : Nat := 9223372036854775808

/-- An integer after its base has been marked. -/
def basedInteger (mark : String) (base : Nat) (isDigit : Char → Bool) : Reader Unit := do
  literal mark
  unless Digits.inBase base (← digits isDigit) < integerLimit do failure

def integer : Reader Unit := do
  let text ← get
  if "0x".toList.isPrefixOf text then basedInteger "0x" 16 Digits.isHex
  else if "0o".toList.isPrefixOf text then basedInteger "0o" 8 fun c => '0' ≤ c && c ≤ '7'
  else if "0b".toList.isPrefixOf text then basedInteger "0b" 2 fun c => c = '0' || c = '1'
  else
    let (negative, written) ← whole
    let magnitude := Digits.decimal written
    unless magnitude < integerLimit || (negative && magnitude = integerLimit) do failure

/-- Whatever `reader` takes, as it is written. -/
def written (reader : Reader Unit) : Reader String := do
  let start ← get
  reader
  return String.ofList (start.take (start.length - (← get).length))

/-- What begins with a digit or a sign. -/
def numberOrMoment : Reader Document :=
  (.moment <$> written moment) <|> (.number <$> written (float <|> special <|> integer))

end NameAssignment.Toml
