import NameAssignment.Text.Digits

/-!
Templates: text in which a number in braces stands for the name at that position.

A block is an opening brace, an optional plus sign, decimal digits and a closing brace. Its number
must fit in 64 bits. `render` puts the name in the block's place; a brace that opens no such block,
or whose number is beyond the names, stays as it is. Substituted names are never read again.
-/

namespace NameAssignment.Template

def openBrace : Char := '\x7b'

def closeBrace : Char := '\x7d'

/-- Numbers must be below this, and so fit in 64 bits. -/
def indexLimit : Nat := 18446744073709551616

/-- Drops one leading plus sign. -/
def dropPlus : List Char → List Char
  | '+' :: digits => digits
  | digits => digits

/-- The number written inside a pair of braces. -/
def index? (inside : List Char) : Option Nat :=
  let digits := dropPlus inside
  if digits ≠ [] ∧ digits.all Char.isDigit ∧ Digits.decimal digits < indexLimit then
    some (Digits.decimal digits)
  else none

/-- What stands before the first closing brace, and what stands after it. -/
def splitAtClose : List Char → Option (List Char × List Char)
  | [] => none
  | c :: rest =>
    if c = closeBrace then some ([], rest)
    else (splitAtClose rest).map fun parts => (c :: parts.1, parts.2)

theorem eq_append_of_splitAtClose {text inside rest : List Char}
    (split : splitAtClose text = some (inside, rest)) :
    text = inside ++ closeBrace :: rest ∧ closeBrace ∉ inside := by
  induction text generalizing inside with
  | nil => simp [splitAtClose] at split
  | cons c tail ih =>
    unfold splitAtClose at split
    split at split
    · simp_all
    · rename_i differs
      obtain ⟨⟨before, after⟩, found, equal⟩ := Option.map_eq_some_iff.1 split
      simp only [Prod.mk.injEq] at equal
      obtain ⟨rfl, rfl⟩ := equal
      have ⟨whole, absent⟩ := ih found
      exact ⟨by simp [whole], by simp [absent, Ne.symm differs]⟩

theorem length_of_splitAtClose {text inside rest : List Char}
    (split : splitAtClose text = some (inside, rest)) : rest.length < text.length := by
  have whole := (eq_append_of_splitAtClose split).1
  simp [whole]
  omega

/-- The name a block stands for and the text after the block, when `text` is what follows an
opening brace. -/
def block? (names : List String) (text : List Char) : Option (String × List Char) := do
  let (inside, rest) ← splitAtClose text
  let index ← index? inside
  let name ← names[index]?
  some (name, rest)

theorem length_of_block? {names : List String} {text rest : List Char} {name : String}
    (found : block? names text = some (name, rest)) : rest.length < text.length := by
  simp only [block?, Option.bind_eq_bind, Option.bind_eq_some_iff, Option.some.injEq,
    Prod.mk.injEq] at found
  obtain ⟨⟨inside, after⟩, split, _, _, _, _, _, rfl⟩ := found
  exact length_of_splitAtClose split

/-- The template's characters with every block replaced by its name. -/
def renderChars (names : List String) : List Char → List Char
  | [] => []
  | c :: rest =>
    if c = openBrace then
      match found : block? names rest with
      | some (name, after) =>
        have := length_of_block? found
        name.toList ++ renderChars names after
      | none => c :: renderChars names rest
    else c :: renderChars names rest
termination_by text => text.length
decreasing_by all_goals simp only [List.length_cons]; omega

/-- The template with every block replaced by its name. -/
def render (template : String) (names : List String) : String :=
  String.ofList (renderChars names template.toList)

/-- The numbers in braces, reading on after each closing brace. -/
def placeholderChars : List Char → List Nat
  | [] => []
  | c :: rest =>
    if c = openBrace then
      match split : splitAtClose rest with
      | some (inside, after) =>
        have := length_of_splitAtClose split
        (index? inside).toList ++ placeholderChars after
      | none => []
    else placeholderChars rest
termination_by text => text.length
decreasing_by all_goals simp only [List.length_cons]; omega

def placeholders (template : String) : List Nat := placeholderChars template.toList

/-- The first placeholder that `count` names leave without a name. -/
def outOfRange? (template : String) (count : Nat) : Option Nat :=
  (placeholders template).find? (count ≤ ·)

end NameAssignment.Template
