import NameAssignment.Terminal.Escape
import NameAssignment.Text.Digits

/-!
Styles that go on from one line of text to the next.

When a text is cut into lines that are shown apart from each other, every line has to begin with
the style that is in force where it was cut, and to end without it. `carry` puts the codes there.
An empty line is left alone.

A code that means nothing leaves the style unclear. A line then ends with a reset as well, but only
where something else has to be ended or a reset stands before: an unclear style by itself is not
carried.
-/

namespace NameAssignment.Terminal

/-- A property of text that a style can change: the code that names it, and the code that ends
it. -/
structure Property where
  code : Nat
  ending : Nat
  deriving DecidableEq, Repr

/-- All properties, in the order in which their codes are written: weights and lines, the font,
colours, frames, marks of ideographs, raised and lowered text. -/
def properties : List Property := [
  ⟨1, 22⟩, ⟨2, 22⟩, ⟨3, 23⟩, ⟨4, 24⟩, ⟨5, 25⟩, ⟨6, 25⟩, ⟨7, 27⟩, ⟨8, 28⟩, ⟨9, 29⟩, ⟨10, 10⟩,
  ⟨20, 23⟩, ⟨21, 24⟩, ⟨26, 50⟩, ⟨38, 39⟩, ⟨48, 49⟩, ⟨58, 59⟩, ⟨51, 54⟩, ⟨52, 54⟩, ⟨53, 55⟩,
  ⟨60, 65⟩, ⟨61, 65⟩, ⟨62, 65⟩, ⟨63, 65⟩, ⟨64, 65⟩, ⟨73, 75⟩, ⟨74, 75⟩]

/-- The codes that end properties, in the order in which they are written. -/
def endings : List Nat := [10, 22, 23, 24, 25, 27, 28, 29, 39, 49, 50, 54, 55, 65, 59, 75]

/-- The property whose values are the fonts. -/
def fontCode : Nat := 10

/-- The property that only a reset takes out of force. -/
def blackletterCode : Nat := 20

/-- The properties whose values are colours. -/
def colorCodes : List Nat := [38, 48, 58]

/-- The codes of a style, as text. -/
def styleSequence (codes : String) : String := "\x1b[" ++ codes ++ "m"

/-- What the codes of a text have led to. -/
structure Style where
  /-- The properties in force, by code, with the codes that set them. -/
  inForce : List (Nat × String)
  /-- Since the last reset, something was asked for that is no property. -/
  isUnclear : Bool
  /-- There has been a reset. -/
  wasReset : Bool
  deriving DecidableEq, Repr

namespace Style

def plain : Style := ⟨[], false, false⟩

/-- The style after a reset. -/
def reset : Style := { plain with wasReset := true }

/-- Nothing has to be carried to another line. A font alone is not carried, nor is a style that is
unclear without a reset before. -/
def isPlain (style : Style) : Bool :=
  !(style.isUnclear && style.wasReset) && style.inForce.all (·.1 = fontCode)

/-- Puts a property in force, in place of its older value. -/
def set (style : Style) (code : Nat) (codes : String) : Style :=
  { style with inForce := (code, codes) :: style.inForce.filter (·.1 ≠ code) }

/-- Ends the properties that a code ends. -/
def finish (style : Style) (ending : Nat) : Style :=
  let isEnded (code : Nat) : Bool :=
    code ≠ blackletterCode && properties.any fun p => p.code = code && p.ending = ending
  { style with inForce := style.inForce.filter fun entry => !isEnded entry.1 }

/-- The style after something that is no property. -/
def unclear (style : Style) : Style := { style with isUnclear := true }

/-- The style after a code that stands by itself. -/
def afterCode (style : Style) (code : Nat) : Style :=
  let written := toString code
  if code = 0 then reset
  else if endings.contains code then style.finish code
  else if 11 ≤ code ∧ code ≤ 19 then style.set fontCode written
  else if (30 ≤ code ∧ code ≤ 37) ∨ (90 ≤ code ∧ code ≤ 97) then style.set 38 written
  else if (40 ≤ code ∧ code ≤ 47) ∨ (100 ≤ code ∧ code ≤ 107) then style.set 48 written
  else if properties.any (·.code = code) then style.set code written
  else style.unclear

/-- The code that a parameter is: a number without leading zeros. -/
def code? (parameter : String) : Option Nat :=
  let digits := parameter.toList
  let code := Digits.decimal digits
  if digits.all Char.isDigit ∧ toString code = parameter then some code else none

/-- The part of a colour that a parameter is: a number that fits in 8 bits, with or without a plus
sign, and zero for everything else. -/
def colorPart (parameter : String) : Nat :=
  let characters := parameter.toList
  let digits := if characters.head? = some '+' then characters.tail else characters
  if digits.all Char.isDigit ∧ Digits.decimal digits < 256 then Digits.decimal digits else 0

/-- Sets a colour. -/
def setColor (style : Style) (code kind : Nat) (parts : List String) : Style :=
  style.set code (String.intercalate ";"
    ((code :: kind :: parts.map colorPart).map toString))

/-- The style after parameters. A colour takes several: its place in a palette after a 5, or its
red, green and blue parts after a 2. It stays as it is if they are not all there, or if something
else says of what kind it is. -/
def afterParameters (style : Style) : List String → Style
  | [] => style
  | first :: rest =>
    match code? first with
    | none => style.unclear.afterParameters rest
    | some code =>
      if !colorCodes.contains code then (style.afterCode code).afterParameters rest
      else
        match rest with
        | [] => style
        | kind :: rest =>
          if kind = "5" then
            match rest with
            | index :: rest => (style.setColor code 5 [index]).afterParameters rest
            | _ => style
          else if kind = "2" then
            match rest with
            | red :: green :: blue :: rest =>
              (style.setColor code 2 [red, green, blue]).afterParameters rest
            | _ => style
          else style.afterParameters rest

/-- The style after a piece of text. -/
def afterPiece (style : Style) : Piece → Style
  | .shown _ => style
  | .style parameters => style.afterParameters (parameters.splitOn ";")

/-- The style after a line. -/
def afterLine (style : Style) (line : String) : Style := (pieces line).foldl afterPiece style

/-- What puts the style in force. -/
def beginning (style : Style) : String :=
  String.join (properties.filterMap fun p => (style.inForce.lookup p.code).map styleSequence)

/-- What ends the style. -/
def ending (style : Style) : String :=
  let isNeeded (code : Nat) : Bool :=
    properties.any fun p => p.ending = code && (style.inForce.lookup p.code).isSome
  let before := if style.isUnclear && style.wasReset then [0] else []
  let behind := if style.isUnclear then [0] else []
  String.join ((before ++ endings.filter isNeeded ++ behind).map fun code =>
    styleSequence (toString code))

/-- Lines that each begin with the style in force and end without it. -/
def carry : Style → List String → List String
  | _, [] => []
  | style, line :: rest =>
    if line.isEmpty then line :: carry style rest
    else
      let after := style.afterLine line
      let before := if style.isPlain then "" else style.beginning
      let behind := if after.isPlain then "" else after.ending
      (before ++ line ++ behind) :: carry after rest

/-- Carrying a style changes no number of lines. -/
@[simp] theorem length_carry (style : Style) (lines : List String) :
    (style.carry lines).length = lines.length := by
  induction lines generalizing style with
  | nil => rfl
  | cons line rest ih =>
    unfold carry
    split <;> simp [ih]

end Style

/-- The lines of a text. More than one are made independent of each other. -/
def styledLines (text : String) : List String :=
  match text.splitOn "\n" with
  | [line] => [line]
  | lines => Style.plain.carry lines

end NameAssignment.Terminal
