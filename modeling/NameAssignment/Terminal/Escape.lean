/-!
Escape sequences in text for a terminal: which characters are shown, and which styles are asked
for between them.

An escape character begins a sequence, and what follows belongs to it up to its end, so a link or
a title shows nothing. A text is read in stretches, each up to the end of a sequence. As many bytes
as the characters of a stretch that are no part of a sequence have are taken off its front as text,
and the rest is the sequence. So a sequence that is broken off, or that is no sequence after all,
is text as far as something is shown behind it. The last stretch is text as a whole, if anything
of it is shown.

`append_splitBytes` says that a stretch is cut without loss.
-/

namespace NameAssignment.Terminal

/-- A piece of a text for a terminal. -/
inductive Piece
  | shown (text : String)
  /-- A change of style, by its parameters. -/
  | style (parameters : String)
  deriving DecidableEq, Repr

/-- How far the header of a device's data has come. -/
inductive HeaderPart
  /-- A private sign may stand here. -/
  | start
  /-- Numbers and separators. -/
  | parameters
  /-- Marks, behind which no parameter stands. -/
  | marks
  deriving DecidableEq, Repr

/-- What the characters read so far leave open. -/
inductive EscapeState
  /-- Nothing: the next character is shown. -/
  | text
  /-- An escape character stands before. -/
  | escape
  /-- A short sequence, which ends with its first digit, letter or sign from `0` on. -/
  | short
  /-- A control sequence, which ends with a letter or a sign from `@` on. -/
  | control (body : List Char)
  /-- A command to the system, which a bell ends. -/
  | command
  /-- The header of a device's data. -/
  | header (part : HeaderPart)
  /-- Data, which a terminator ends. -/
  | data
  deriving DecidableEq, Repr

def escapeCharacter : Char := '\x1b'

/-- Characters that break a sequence off. -/
def isCancel (c : Char) : Bool := c = '\x18' || c = '\x1a'

/-- The byte that ends data. -/
def terminator : UInt8 := 0x9C

/-- Bytes from 80 to 9F that are controls by themselves. The others begin sequences where a terminal
reads them as controls. -/
def isControlByte (byte : UInt8) : Bool :=
  (0x80 ≤ byte && byte ≤ 0x8F) || (0x91 ≤ byte && byte ≤ 0x9A) || byte = 0x9C

/-- How many parameters a control sequence may have. -/
def parameterLimit : Nat := 32

/-- What a character means to the stretch that it stands in. -/
inductive Effect
  /-- So many bytes of it are shown, or carried out by themselves. -/
  | counts (bytes : Nat)
  /-- It belongs to a sequence. -/
  | belongs
  /-- It is the last of a sequence. -/
  | ends
  /-- It is the last of a sequence that changes the style. -/
  | endsStyle
  /-- It is carried out by itself, and a sequence is at its end. -/
  | countsAndEnds
  deriving DecidableEq, Repr

/-- Signs that make parameters private. -/
def isPrivateSign (c : Char) : Bool := '<' ≤ c && c ≤ '?'

/-- Signs between parameters. -/
def isSeparator (c : Char) : Bool := c = ';' || c = ':'

/-- Signs that numbers with separators are written with. -/
def isParameterSign (c : Char) : Bool := c.isDigit || isSeparator c

/-- Signs that may stand behind parameters. -/
def isMark (c : Char) : Bool := ' ' ≤ c && c ≤ '/'

/-- What the last character of a control sequence does. Terminals know the sequence if it has a
private sign or none, then numbers with separators, then marks, of which there is at most one
together with the private sign. Characters that are no signs do not count. Only a sequence of
numbers changes the style. -/
def controlEffect (body : List Char) (last : Char) : Effect :=
  let signs := body.filter fun c => ' ' ≤ c && c ≤ '?'
  let rest := if signs.head?.any isPrivateSign then signs.tail else signs
  let marks := rest.dropWhile isParameterSign
  let special := (signs.length - rest.length) + marks.length
  if marks.all isMark && special ≤ 1 && rest.countP isSeparator < parameterLimit then
    if last = 'm' && special = 0 then .endsStyle else .ends
  else .belongs

namespace EscapeState

/-- What a character inside a sequence does that is neither a sign nor a letter. -/
def ignored (c : Char) : Effect := if c < ' ' then .counts c.utf8Size else .belongs

/-- What the character after an escape character does. -/
def opened (c : Char) : Effect × EscapeState :=
  if c = '[' then (.belongs, .control [])
  else if c = ']' then (.belongs, .command)
  else if c = 'P' then (.belongs, .header .start)
  else if c = 'X' || c = '^' || c = '_' then (.belongs, .data)
  else if isMark c then (.belongs, .short)
  else if '0' ≤ c && c ≤ '~' then (.ends, .text)
  else (ignored c, .escape)

/-- What an escape character does. A command has it as its end, and what follows it is a sequence
that lacks its first character. -/
def escaped : EscapeState → Effect × EscapeState
  | .command => (.ends, .escape)
  | _ => (.belongs, .escape)

/-- What a character that breaks off does. It is an end to a command. -/
def cancelled (c : Char) : EscapeState → Effect × EscapeState
  | .command => (.countsAndEnds, .text)
  | _ => (.counts c.utf8Size, .text)

/-- What a character of a header leaves open. The data begin behind a letter or a sign from `@` on,
and with a parameter or a private sign that stands where none may. -/
def headed (part : HeaderPart) (c : Char) : EscapeState :=
  if '@' ≤ c && c ≤ '~' then .data
  else if isMark c then .header .marks
  else if isParameterSign c then if part = .marks then .data else .header .parameters
  else if isPrivateSign c then if part = .start then .header .parameters else .data
  else .header part

/-- What a character of data does. They end within a character that has the terminator among its
bytes, and the bytes behind it are read by themselves. -/
def supplied (c : Char) : Effect × EscapeState :=
  match (String.utf8EncodeChar c).dropWhile (· ≠ terminator) with
  | [] => (.belongs, .data)
  | _ :: behind => (.counts (behind.countP isControlByte), .text)

/-- What a character does, and what it leaves open. -/
def read (state : EscapeState) (c : Char) : Effect × EscapeState :=
  if c = escapeCharacter then state.escaped
  else if isCancel c then state.cancelled c
  else
    match state with
    | .text => (.counts c.utf8Size, .text)
    | .escape => opened c
    | .short => if '0' ≤ c && c ≤ '~' then (.ends, .text) else (ignored c, .short)
    | .control body =>
      if '@' ≤ c && c ≤ '~' then (controlEffect body c, .text)
      else (ignored c, .control (body ++ [c]))
    | .command => if c = '\x07' then (.ends, .text) else (.belongs, .command)
    | .header part => (.belongs, headed part c)
    | .data => supplied c

end EscapeState

/-- Cuts a text after a number of bytes. A character that reaches beyond them stands behind. -/
def splitBytes : Nat → List Char → List Char × List Char
  | _, [] => ([], [])
  | bytes, c :: rest =>
    if c.utf8Size ≤ bytes then
      let (before, behind) := splitBytes (bytes - c.utf8Size) rest
      (c :: before, behind)
    else ([], c :: rest)

/-- Cutting a text loses nothing of it. -/
theorem append_splitBytes (bytes : Nat) (text : List Char) :
    (splitBytes bytes text).1 ++ (splitBytes bytes text).2 = text := by
  induction text generalizing bytes with
  | nil => simp [splitBytes]
  | cons c rest ih =>
    unfold splitBytes
    split
    · simpa using ih (bytes - c.utf8Size)
    · simp

/-- What has been read since the end of the last sequence. -/
structure Stretch where
  state : EscapeState
  /-- Whether an escape character stands right before, be it the end of another stretch. -/
  behindEscape : Bool
  /-- The characters, the last one first. -/
  reversed : List Char
  /-- The bytes of the characters that are no part of a sequence. -/
  counted : Nat
  /-- How many escape characters stand right behind another. Each takes the place of a byte at the
  front of the stretch. -/
  doubled : Nat
  deriving DecidableEq, Repr

namespace Stretch

/-- The beginning of a stretch. -/
def fresh (state : EscapeState) : Stretch := ⟨state, state = .escape, [], 0, 0⟩

/-- The characters from the first one on that belongs to the text. -/
def characters (stretch : Stretch) : List Char :=
  (splitBytes stretch.doubled stretch.reversed.reverse).2

/-- A piece of text, if anything is shown. -/
def shown (stretch : Stretch) (text : List Char) : List Piece :=
  if stretch.counted = 0 then [] else [.shown (String.ofList text)]

/-- The parameters of a change of style, none if something else stands where they begin. -/
def parameters : List Char → String
  | '\x1b' :: '[' :: rest => String.ofList rest.dropLast
  | _ => ""

/-- The pieces of a stretch that a sequence ends. -/
def pieces (stretch : Stretch) (isStyle : Bool) : List Piece :=
  let (text, sequence) := splitBytes stretch.counted stretch.characters
  stretch.shown text ++ if isStyle then [.style (parameters sequence)] else []

/-- The stretch with one more character. -/
def add (stretch : Stretch) (state : EscapeState) (c : Char) : Stretch :=
  let isEscape := c = escapeCharacter
  { stretch with
    state := state
    behindEscape := isEscape
    reversed := c :: stretch.reversed
    doubled := stretch.doubled + if isEscape && stretch.behindEscape then 1 else 0 }

/-- The stretch with bytes counted as no part of a sequence. -/
def count (stretch : Stretch) (bytes : Nat) : Stretch :=
  { stretch with counted := stretch.counted + bytes }

/-- Reads a character: the pieces that are complete with it, and the stretch after it. -/
def step (stretch : Stretch) (c : Char) : List Piece × Stretch :=
  let (effect, state) := stretch.state.read c
  let next := stretch.add state c
  match effect with
  | .counts bytes => ([], next.count bytes)
  | .belongs => ([], next)
  | .ends => (next.pieces false, fresh state)
  | .endsStyle => (next.pieces true, fresh state)
  | .countsAndEnds => ((next.count c.utf8Size).pieces false, fresh state)

/-- The pieces of the rest of a text. -/
def piecesOf (stretch : Stretch) : List Char → List Piece
  | [] => stretch.shown stretch.characters
  | c :: rest =>
    let (complete, next) := stretch.step c
    complete ++ next.piecesOf rest

end Stretch

/-- The pieces of a text. -/
def pieces (text : String) : List Piece := (Stretch.fresh .text).piecesOf text.toList

end NameAssignment.Terminal
