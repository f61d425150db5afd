import NameAssignment.Text.Hidden

/-!
Text in double quotes, as messages show it when it has to be seen exactly: the quote, the
backslash and the usual controls have two-character escapes, and a character that cannot stand for
itself is written by its code point in hexadecimal.
-/

namespace NameAssignment.Quoted

def hexDigits (n : Nat) : List Char := Nat.toDigits 16 n

/-- One character inside the quotes. -/
def encodeChar (c : Char) : List Char :=
  match c with
  | '"' => ['\\', '"']
  | '\\' => ['\\', '\\']
  | '\n' => ['\\', 'n']
  | '\r' => ['\\', 'r']
  | '\t' => ['\\', 't']
  | '\x00' => ['\\', '0']
  | _ =>
    if ' ' ≤ c && c ≤ '~' then [c]
    else if isHidden c then ['\\', 'u', '\x7b'] ++ hexDigits c.toNat ++ ['\x7d']
    else [c]

def encode (text : String) : String :=
  String.ofList ('"' :: text.toList.flatMap encodeChar ++ ['"'])

/-- Items in brackets, separated by commas. -/
def bracketed (items : List String) : String :=
  "[" ++ String.intercalate ", " items ++ "]"

/-- A list of texts, each in quotes. -/
def encodeList (texts : List String) : String :=
  bracketed (texts.map encode)

end NameAssignment.Quoted
