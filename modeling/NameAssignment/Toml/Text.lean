import NameAssignment.Document.Reader
import NameAssignment.Text.Digits

/-!
Reading the text parts of TOML: blanks, line ends, comments, keys and the four kinds of strings.
-/

namespace NameAssignment.Toml

open Reader

def isBlank (c : Char) : Bool := c = ' ' || c = '\t'

def skipBlanks : Reader Unit := discard (takeWhile isBlank)

/-- A line feed, or a carriage return and a line feed. -/
def lineEnd : Reader Unit := do
  discard (accept '\r')
  char '\n'

/-- Whether the next character begins a line end. -/
def atLineEnd : Reader Bool := do
  let c ← peek?
  return c = some '\n' || c = some '\r'

/-- Characters that may stand in comments and, but for the quotes, in strings. -/
def isPlain (c : Char) : Bool := c = '\t' || (' ' ≤ c && c ≠ '\x7f')

/-- A comment up to the end of its line. -/
def comment : Reader Unit := do
  char '#'
  discard (takeWhile isPlain)

/-- Blanks and an optional comment, then the end of the line or of the text. -/
def restOfLine : Reader Unit := do
  skipBlanks
  if (← peek?) = some '#' then comment
  unless ← atEnd do lineEnd

/-- Blanks, line ends and comments. -/
def skipLines : Reader Unit := do
  discard (many do
    match ← peek? with
    | some '#' => comment; if ← atEnd then return none else lineEnd; return some ()
    | some '\n' | some '\r' => lineEnd; return some ()
    | some ' ' | some '\t' => discard next; return some ()
    | _ => return none)

/-! ## Strings -/

/-- A character by code point, which must not be a surrogate. -/
def codePoint (digits : Nat) : Reader Char := do
  let code := Digits.hexadecimal (← exactly digits Digits.isHex)
  if code.isValidChar then return Char.ofNat code else failure

/-- What follows a backslash. -/
def escape : Reader Char := do
  match ← next with
  | '"' => return '"'
  | '\\' => return '\\'
  | 'b' => return '\x08'
  | 'f' => return '\x0c'
  | 'n' => return '\n'
  | 'r' => return '\r'
  | 't' => return '\t'
  | 'u' => codePoint 4
  | 'U' => codePoint 8
  | _ => failure

/-- A string in quotes on one line. -/
def basicString : Reader String := do
  char '"'
  let characters ← many do
    match ← next with
    | '"' => return none
    | '\\' => return some (← escape)
    | c => if isPlain c then return some c else failure
  return String.ofList characters

/-- A string in apostrophes on one line, without escapes. -/
def literalString : Reader String := do
  char '\''
  let characters ← takeWhile fun c => isPlain c && c ≠ '\''
  char '\''
  return String.ofList characters

/-- A line end directly after the opening quotes is no part of the string. -/
def skipFirstLineEnd : Reader Unit := do
  if ← atLineEnd then lineEnd

/-- A backslash at the end of a line: takes the line end and all blanks and line ends after it. -/
def continuation : Reader Unit := do
  skipBlanks
  lineEnd
  discard (many do
    if ← atLineEnd then lineEnd; return some ()
    match ← peek? with
    | some ' ' | some '\t' => discard next; return some ()
    | _ => return none)

/-- A run of quotes inside a string over several lines. Up to two belong to the string; three
close it, and up to two before those belong to it as well. Says whether the string goes on. -/
def quotes (quote : Char) : Reader (List Char × Bool) := do
  let run ← takeWhile (· = quote)
  if run.length < 3 then return (run, true)
  else if run.length ≤ 5 then return (run.drop 3, false)
  else failure

/-- The pieces of a string over several lines, up to and with its closing quotes. -/
def pieces (quote : Char) (escaped : Reader (List Char)) : Reader (List Char) := do
  let (taken, _) ← steps (fun (taken, goesOn) => do
    if !goesOn then return none
    match ← peek? with
    | none => failure
    | some c =>
      if c = quote then
        let (run, more) ← quotes quote
        return some (taken ++ [run], more)
      else if c = '\\' then return some (taken ++ [← escaped], true)
      else if ← atLineEnd then
        lineEnd
        return some (taken ++ [['\n']], true)
      else return some (taken ++ [← takeWhile1 fun c => isPlain c && c ≠ quote && c ≠ '\\'], true))
    ([], true)
  return taken.flatten

/-- A backslash in a string in quotes: an escape, or a line that goes on. -/
def escapeOrContinuation : Reader (List Char) := do
  char '\\'
  match ← attempt continuation with
  | some _ => return []
  | none => return [← escape]

/-- A string in three quotes, over several lines. -/
def multilineBasicString : Reader String := do
  literal "\"\"\""
  skipFirstLineEnd
  return String.ofList (← pieces '"' escapeOrContinuation)

/-- A string in three apostrophes, over several lines, in which a backslash is a character. -/
def multilineLiteralString : Reader String := do
  literal "'''"
  skipFirstLineEnd
  return String.ofList (← pieces '\'' (do char '\\'; return ['\\']))

/-- Any of the four kinds of strings. -/
def string : Reader String := do
  let text ← get
  if "\"\"\"".toList.isPrefixOf text then multilineBasicString
  else if "'''".toList.isPrefixOf text then multilineLiteralString
  else if text.head? = some '"' then basicString
  else literalString

/-! ## Keys -/

def isBareKeyChar (c : Char) : Bool := c.isAlphanum || c = '_' || c = '-'

/-- One part of a key. -/
def keyPart : Reader String := do
  match ← peek? with
  | some '"' => basicString
  | some '\'' => literalString
  | _ => String.ofList <$> takeWhile1 isBareKeyChar

/-- Keys must have fewer parts than this. -/
def keyPartLimit : Nat := 80

/-- A key: parts separated by points, with blanks around each part. -/
def key : Reader (List String) := do
  let part : Reader String := do
    skipBlanks
    let name ← keyPart
    skipBlanks
    return name
  let first ← part
  let rest ← many do
    if ← accept '.' then return some (← part) else return none
  if rest.length + 1 < keyPartLimit then return first :: rest else failure

end NameAssignment.Toml
