/-!
Digits and their values, decimal and hexadecimal.
-/

namespace NameAssignment.Digits

/-- The value of a decimal digit. -/
def value (digit : Char) : Nat := digit.toNat - '0'.toNat

/-- The value of decimal digits, the first the most significant. -/
def decimal (digits : List Char) : Nat :=
  digits.foldl (fun total digit => 10 * total + value digit) 0

def isHex (c : Char) : Bool :=
  c.isDigit || ('a' ≤ c && c ≤ 'f') || ('A' ≤ c && c ≤ 'F')

/-- The value of a hexadecimal digit. -/
def hexValue (digit : Char) : Nat :=
  if digit.isDigit then value digit
  else if 'a' ≤ digit then digit.toNat - 'a'.toNat + 10
  else digit.toNat - 'A'.toNat + 10

/-- The value of digits in the given base, the first the most significant. -/
def inBase (base : Nat) (digits : List Char) : Nat :=
  digits.foldl (fun total digit => base * total + hexValue digit) 0

def hexadecimal (digits : List Char) : Nat := inBase 16 digits

end NameAssignment.Digits
