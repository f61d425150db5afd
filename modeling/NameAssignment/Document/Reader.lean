/-!
Readers: functions that take something off the front of a text or fail.

A reader does not say why it fails. Repetition is bounded by the length of what is left to read,
so every reader ends.
-/

namespace NameAssignment

/-- Takes a value off the front of the characters, or fails. -/
abbrev Reader := StateT (List Char) Option

namespace Reader

variable {α σ : Type}

/-- The next character, which stays; none at the end. -/
def peek? : Reader (Option Char) := do
  return (← get).head?

/-- Takes the next character. -/
def next : Reader Char := do
  match ← get with
  | [] => failure
  | c :: rest => set rest; return c

/-- Takes the next character if it passes. -/
def nextIf (accepts : Char → Bool) : Reader Char := do
  let c ← next
  if accepts c then return c else failure

/-- Takes the given character. -/
def char (c : Char) : Reader Unit := do
  discard (nextIf (· = c))

/-- Takes the given characters, one after the other. -/
def literal (text : String) : Reader Unit := text.toList.forM char

/-- Takes the longest run of characters that pass. -/
def takeWhile (accepts : Char → Bool) : Reader (List Char) := do
  let text ← get
  set (text.dropWhile accepts)
  return text.takeWhile accepts

/-- Takes a run of characters that pass, one at least. -/
def takeWhile1 (accepts : Char → Bool) : Reader (List Char) := do
  let run ← takeWhile accepts
  if run.isEmpty then failure else return run

/-- Takes as many characters as said, all of which pass. -/
def exactly (count : Nat) (accepts : Char → Bool) : Reader (List Char) :=
  (List.replicate count ()).mapM fun _ => nextIf accepts

/-- Takes the given character if it comes next, and says whether it did. -/
def accept (c : Char) : Reader Bool := do
  if (← peek?) = some c then
    discard next
    return true
  else return false

/-- Takes what `reader` takes, or nothing if it fails. -/
def attempt (reader : Reader α) : Reader (Option α) :=
  (some <$> reader) <|> pure none

/-- Whether everything has been taken. -/
def atEnd : Reader Bool := do
  return (← get).isEmpty

/-- Succeeds only at the end. -/
def finish : Reader Unit := do
  unless ← atEnd do failure

/-- Takes steps until one says it is the last. `fuel` bounds their number. -/
def stepsWithin (step : σ → Reader (Option σ)) : Nat → σ → Reader σ
  | 0, _ => failure
  | fuel + 1, state => do
    match ← step state with
    | none => return state
    | some after => stepsWithin step fuel after

/-- Takes steps until one says it is the last. Each of the others takes a character at least, so
there cannot be more than there are characters. -/
def steps (step : σ → Reader (Option σ)) (state : σ) : Reader σ := do
  stepsWithin step ((← get).length + 1) state

/-- Takes items until there is none to take. -/
def many (item : Reader (Option α)) : Reader (List α) := do
  let found ← steps (fun taken => do return (← item).map (· :: taken)) []
  return found.reverse

/-- Reads the whole text. -/
def readAll (reader : Reader α) (text : String) : Option α :=
  let whole : Reader α := do
    let value ← reader
    finish
    return value
  (whole.run text.toList).map (·.1)

end Reader

end NameAssignment
