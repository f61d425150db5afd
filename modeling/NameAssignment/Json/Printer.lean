import NameAssignment.Document

/-!
Printing JSON over several lines: two blanks of indentation a level, one item or field a line, and
nothing between the brackets of an empty list or object.
-/

namespace NameAssignment.Json

def hexDigit (n : Nat) : Char := ("0123456789abcdef".toList[n]?).getD '0'

/-- One character inside a string. Only controls, the quote and the backslash are escaped. -/
def encodeChar (c : Char) : List Char :=
  match c with
  | '"' => ['\\', '"']
  | '\\' => ['\\', '\\']
  | '\x08' => ['\\', 'b']
  | '\x0c' => ['\\', 'f']
  | '\n' => ['\\', 'n']
  | '\r' => ['\\', 'r']
  | '\t' => ['\\', 't']
  | _ =>
    if c < ' ' then ['\\', 'u', '0', '0', hexDigit (c.toNat / 16), hexDigit (c.toNat % 16)]
    else [c]

def encode (text : String) : String :=
  String.ofList ('"' :: text.toList.flatMap encodeChar ++ ['"'])

def indentation (level : Nat) : String := String.ofList (List.replicate (2 * level) ' ')

/-- Lines between brackets, each one level deeper than the brackets. -/
def block (level : Nat) (opening closing : String) (lines : List String) : String :=
  if lines.isEmpty then opening ++ closing
  else
    opening ++ "\n"
      ++ String.intercalate ",\n" (lines.map (indentation (level + 1) ++ ·))
      ++ "\n" ++ indentation level ++ closing

mutual

/-- A document whose opening bracket stands on a line of the given level. -/
def print (level : Nat) : Document → String
  | .null => "null"
  | .truth true => "true"
  | .truth false => "false"
  | .number written => written
  | .moment written => encode written
  | .text value => encode value
  | .list items => block level "[" "]" (printItems (level + 1) items)
  | .table fields => block level "\x7b" "\x7d" (printFields (level + 1) fields)

def printItems (level : Nat) : List Document → List String
  | [] => []
  | item :: rest => print level item :: printItems level rest

def printFields (level : Nat) : List (String × Document) → List String
  | [] => []
  | (key, value) :: rest =>
    (encode key ++ ": " ++ print level value) :: printFields level rest

end

/-- A document over several lines. -/
def pretty (document : Document) : String := print 0 document

end NameAssignment.Json
