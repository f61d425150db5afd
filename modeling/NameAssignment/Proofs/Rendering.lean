import Mathlib.Data.List.Induction
import NameAssignment.Proofs.Placeholders

/-! What rendering does, said without a scanner. A template can be divided in exactly one way into
characters that stay and blocks that are filled, if every block whose number has a name is to be
filled. Rendering writes this division down, the names in place of their blocks. So a name is never
looked at for blocks of its own, and no other character is touched. -/
namespace NameAssignment.Rendering
open Template

variable {names : List String} {inside after text : List Char} {name : String} {number : Nat}

/-! ### Numbers in blocks -/

/-- Decimal digits, and the number they write. -/
inductive Numeral : List Char → Nat → Prop
  | digit {value : Nat} (below : value < 10) : Numeral [value.digitChar] value
  | append {digits : List Char} {number value : Nat} (front : Numeral digits number)
      (below : value < 10) : Numeral (digits ++ [value.digitChar]) (10 * number + value)

/-- What may stand in the braces of a block: a numeral, with or without a plus sign, of a number
that fits in 64 bits. -/
def Denotes (inside : List Char) (number : Nat) : Prop :=
  number < UInt64.size ∧ ∃ digits, Numeral digits number ∧ (inside = digits ∨ inside = '+' :: digits)

theorem decimal_concat (digits : List Char) (c : Char) :
    Digits.decimal (digits ++ [c]) = 10 * Digits.decimal digits + Digits.value c := by
  rw [Digits.decimal, List.foldl_append]
  rfl

theorem value_digitChar {value : Nat} (below : value < 10) :
    Digits.value value.digitChar = value :=
  Nat.toNat_digitChar_sub_48_of_lt_ten below

theorem exists_digitChar {c : Char} (digit : c.isDigit = true) :
    ∃ value < 10, c = value.digitChar := by
  obtain ⟨low, high⟩ := Char.isDigit_iff_toNat.mp digit
  have least : '0'.toNat = 48 := rfl
  have most : '9'.toNat = 57 := rfl
  have below : c.toNat - 48 < 10 := by omega
  refine ⟨c.toNat - 48, below, Char.toNat_inj.mp ?_⟩
  rw [Nat.toNat_digitChar_of_lt_ten below]
  omega

/-- A numeral is what is read as one. -/
theorem numeral_iff {digits : List Char} : Numeral digits number ↔
    digits ≠ [] ∧ digits.all Char.isDigit = true ∧ Digits.decimal digits = number := by
  constructor
  · intro numeral
    induction numeral with
    | digit below =>
      refine ⟨List.cons_ne_nil _ _, by simp [Nat.isDigit_digitChar, below], ?_⟩
      rw [← List.nil_append [_], decimal_concat, value_digitChar below]
      exact Nat.zero_add _
    | append front below ih =>
      obtain ⟨-, all, read⟩ := ih
      refine ⟨by simp, by simp [all, Nat.isDigit_digitChar, below], ?_⟩
      rw [decimal_concat, read, value_digitChar below]
  · rintro ⟨nonempty, all, rfl⟩
    induction digits using List.reverseRecOn with
    | nil => exact absurd rfl nonempty
    | append_singleton digits c ih =>
      rw [List.all_append, Bool.and_eq_true] at all
      obtain ⟨value, below, rfl⟩ := exists_digitChar (by simpa using all.2)
      rw [decimal_concat, value_digitChar below]
      by_cases first : digits = []
      · subst first
        simpa [Digits.decimal] using Numeral.digit below
      · exact .append (ih first all.1) below

/-- The number of a block is what is read inside it. -/
theorem index?_eq_some_iff : index? inside = some number ↔ Denotes inside number := by
  have read : index? inside = some number ↔
      number < indexLimit ∧ Numeral (dropPlus inside) number := by
    rw [index?, numeral_iff]
    grind
  rw [read]
  refine and_congr_right fun _ => ⟨fun numeral => ⟨_, numeral, ?_⟩, ?_⟩
  · unfold dropPlus
    split <;> simp
  · rintro ⟨digits, numeral, rfl | rfl⟩
    · have unsigned : dropPlus inside = inside := by
        unfold dropPlus
        split
        · simp [numeral_iff] at numeral
        · rfl
      rwa [unsigned]
    · exact numeral

theorem Denotes.unique {other : Nat} (denotes : Denotes inside number)
    (again : Denotes inside other) : number = other :=
  Option.some.inj ((index?_eq_some_iff.mpr denotes).symm.trans (index?_eq_some_iff.mpr again))

/-! ### Divisions of a text -/

/-- A character that stays, or a block with the name that it stands for. -/
inductive Piece
  | kept (c : Char)
  | filled (inside : List Char) (name : String)

namespace Piece

/-- What the piece is in the template. -/
def source : Piece → List Char
  | kept c => [c]
  | filled inside _ => block inside

/-- What becomes of it. -/
def result : Piece → List Char
  | kept c => [c]
  | filled _ name => name.toList

theorem source_ne_nil (piece : Piece) : piece.source ≠ [] := by
  cases piece <;> exact List.cons_ne_nil _ _

end Piece

variable {piece : Piece} {pieces : List Piece}

/-- A block stands for a name. -/
def StandsFor (names : List String) (inside : List Char) (name : String) : Prop :=
  ∃ number, Denotes inside number ∧ names[number]? = some name

theorem StandsFor.unique {other : String} (stands : StandsFor names inside name)
    (again : StandsFor names inside other) : name = other := by
  obtain ⟨number, denotes, found⟩ := stands
  obtain ⟨same, denotesToo, foundToo⟩ := again
  obtain rfl := denotes.unique denotesToo
  exact Option.some.inj (found.symm.trans foundToo)

theorem StandsFor.no_brace (stands : StandsFor names inside name) :
    openBrace ∉ inside ∧ closeBrace ∉ inside := by
  obtain ⟨number, denotes, -⟩ := stands
  exact no_brace_inside (index?_eq_some_iff.mpr denotes)

/-- The scanner finds a block behind an opening brace exactly if there is one that stands for a
name. -/
theorem block?_eq_some_iff : block? names text = some (name, after) ↔
    ∃ inside, text = inside ++ closeBrace :: after ∧ StandsFor names inside name := by
  constructor
  · intro found
    simp only [block?, Option.bind_eq_bind, Option.bind_eq_some_iff, Option.some.injEq,
      Prod.mk.injEq] at found
    obtain ⟨⟨inside, rest⟩, split, number, read, held, named, rfl, rfl⟩ := found
    exact ⟨inside, (eq_append_of_splitAtClose split).1, number, index?_eq_some_iff.mp read, named⟩
  · rintro ⟨inside, rfl, stands⟩
    rw [block?_of_split (splitAtClose_eq_some stands.no_brace.2 after)]
    obtain ⟨number, denotes, named⟩ := stands
    rw [index?_eq_some_iff.mpr denotes, Option.bind_some, named, Option.map_some]

/-- The pieces divide a text so that exactly the blocks that stand for a name are filled, each with
its own. -/
structure Divides (names : List String) (text : List Char) (pieces : List Piece) : Prop where
  whole : pieces.flatMap Piece.source = text
  sound : ∀ inside name, .filled inside name ∈ pieces → StandsFor names inside name
  /-- Wherever a block that stands for a name is found in the text, it is one of the pieces. -/
  complete : ∀ before inside after name, text = before ++ block inside ++ after →
    StandsFor names inside name → ∃ earlier later,
      pieces = earlier ++ .filled inside name :: later ∧
        earlier.flatMap Piece.source = before ∧ later.flatMap Piece.source = after

/-! ### A text is divided in one way -/

/-- No piece has an empty source. -/
theorem eq_nil_of_flatMap_source (empty : pieces.flatMap Piece.source = []) : pieces = [] := by
  cases pieces with
  | nil => rfl
  | cons piece rest =>
    rw [List.flatMap_cons, List.append_eq_nil_iff] at empty
    exact absurd empty.1 piece.source_ne_nil

/-- A block at the front of a text is its first piece. -/
theorem Divides.head (divides : Divides names text pieces) (front : text = block inside ++ after)
    (stands : StandsFor names inside name) : ∃ later, pieces = .filled inside name :: later := by
  obtain ⟨earlier, later, rfl, nothing, -⟩ := divides.complete [] inside after name front stands
  obtain rfl := eq_nil_of_flatMap_source nothing
  exact ⟨later, rfl⟩

/-- What follows the first piece is divided as well. -/
theorem Divides.tail (divides : Divides names text (piece :: pieces)) :
    Divides names (pieces.flatMap Piece.source) pieces where
  whole := rfl
  sound inside name listed := divides.sound inside name (List.mem_cons_of_mem _ listed)
  complete before inside after name split stands := by
    have further : text = (piece.source ++ before) ++ block inside ++ after := by
      rw [← divides.whole, List.flatMap_cons, split]
      simp only [List.append_assoc]
    obtain ⟨earlier, later, same, front, back⟩ := divides.complete _ _ _ _ further stands
    cases earlier with
    | nil => exact absurd (List.append_eq_nil_iff.mp front.symm).1 piece.source_ne_nil
    | cons first earlier =>
      obtain ⟨rfl, rfl⟩ := List.cons.inj same
      exact ⟨earlier, later, rfl, List.append_cancel_left front, back⟩

/-- Two divisions begin alike: a block that one of them fills first is the first of both. -/
theorem Divides.head_unique {first : Piece} {others : List Piece}
    (divides : Divides names text (piece :: pieces))
    (other : Divides names text (first :: others)) : piece = first := by
  have fills {inside : List Char} {name : String} {pieces others : List Piece} {first : Piece}
      (divides : Divides names text (.filled inside name :: pieces))
      (other : Divides names text (first :: others)) : first = .filled inside name := by
    have stands := divides.sound inside name List.mem_cons_self
    obtain ⟨later, same⟩ := other.head divides.whole.symm stands
    exact (List.cons.inj same).1
  cases piece with
  | filled inside name => exact (fills divides other).symm
  | kept c =>
    cases first with
    | filled inside name => exact fills other divides
    | kept d =>
      obtain ⟨rfl, -⟩ := List.cons.inj (divides.whole.trans other.whole.symm)
      rfl

theorem Divides.unique {others : List Piece} (divides : Divides names text pieces)
    (other : Divides names text others) : pieces = others := by
  induction pieces generalizing text others with
  | nil =>
    rw [← divides.whole] at other
    exact (eq_nil_of_flatMap_source other.whole).symm
  | cons piece pieces ih =>
    cases others with
    | nil =>
      rw [← other.whole] at divides
      exact eq_nil_of_flatMap_source divides.whole
    | cons first others =>
      obtain rfl := divides.head_unique other
      have rest := divides.whole.trans other.whole.symm
      rw [List.flatMap_cons, List.flatMap_cons] at rest
      have tail := other.tail
      rw [← List.append_cancel_left rest] at tail
      rw [ih divides.tail tail]

/-! ### Rendering writes the division down -/

theorem divides_nil (names : List String) : Divides names [] [] where
  whole := rfl
  sound _ _ listed := by cases listed
  complete before inside after name split _ := by simp [block] at split

/-- A block found behind other text stands behind as much of it as has no opening brace. -/
theorem exists_behind {plain tail before rest : List Char} (closed : openBrace ∉ plain)
    (same : plain ++ tail = before ++ openBrace :: rest) :
    ∃ more, before = plain ++ more ∧ tail = more ++ openBrace :: rest := by
  rcases List.append_eq_append_iff.mp same with ⟨more, rfl, back⟩ | ⟨more, rfl, back⟩
  · exact ⟨more, rfl, back⟩
  · cases more with
    | nil => exact ⟨[], by simp, back.symm⟩
    | cons c more =>
      obtain ⟨rfl, -⟩ := List.cons.inj back
      exact absurd (List.mem_append_right _ List.mem_cons_self) closed

/-- A block that stands for a name is filled, before a text that is divided. -/
theorem Divides.fill (stands : StandsFor names inside name) (divides : Divides names after pieces) :
    Divides names (block inside ++ after) (.filled inside name :: pieces) where
  whole := congrArg (block inside ++ ·) divides.whole
  sound other given listed := by
    rcases List.mem_cons.mp listed with same | later
    · cases same
      exact stands
    · exact divides.sound other given later
  complete before other rest given split standsToo := by
    have unclosed := stands.no_brace
    simp only [block, List.cons_append, List.append_assoc, List.nil_append] at split
    cases before with
    | nil =>
      have inner := (List.cons.inj split).2
      have once := splitAtClose_eq_some unclosed.2 after
      rw [inner, splitAtClose_eq_some standsToo.no_brace.2] at once
      cases once
      obtain rfl := stands.unique standsToo
      exact ⟨[], pieces, rfl, rfl, divides.whole⟩
    | cons c before =>
      obtain ⟨rfl, inner⟩ := List.cons.inj split
      have closed : openBrace ∉ inside ++ [closeBrace] := by
        simpa [unclosed.1] using (by decide : openBrace ≠ closeBrace)
      obtain ⟨more, rfl, behind⟩ := exists_behind closed ((List.append_assoc ..).trans inner)
      obtain ⟨earlier, later, rfl, front, back⟩ :=
        divides.complete more other rest given (by simpa [block] using behind) standsToo
      refine ⟨.filled inside name :: earlier, later, rfl, ?_, back⟩
      rw [List.flatMap_cons, front]
      simp [Piece.source, block]

/-- A character that begins no block that stands for a name stays. -/
theorem Divides.keep (divides : Divides names text pieces)
    (none : ∀ inside after name, c :: text = block inside ++ after →
      ¬ StandsFor names inside name) : Divides names (c :: text) (.kept c :: pieces) where
  whole := congrArg (c :: ·) divides.whole
  sound inside name listed := by
    rcases List.mem_cons.mp listed with same | later
    · cases same
    · exact divides.sound inside name later
  complete before inside after name split stands := by
    cases before with
    | nil => exact absurd stands (none inside after name split)
    | cons first before =>
      obtain ⟨rfl, behind⟩ := List.cons.inj split
      obtain ⟨earlier, later, rfl, front, back⟩ :=
        divides.complete before inside after name behind stands
      exact ⟨.kept c :: earlier, later, rfl, congrArg (c :: ·) front, back⟩

/-- Rendering goes through a division of the text. -/
theorem exists_divides (names : List String) (text : List Char) : ∃ pieces,
    Divides names text pieces ∧ renderChars names text = pieces.flatMap Piece.result := by
  fun_induction renderChars names text with
  | case1 => exact ⟨[], divides_nil names, rfl⟩
  | case2 rest name after found _ ih =>
    obtain ⟨pieces, divides, rendered⟩ := ih
    obtain ⟨inside, rfl, stands⟩ := block?_eq_some_iff.mp found
    have whole : openBrace :: (inside ++ closeBrace :: after) = block inside ++ after := by
      simp [block]
    rw [whole, rendered]
    exact ⟨_, divides.fill stands, rfl⟩
  | case3 rest missing ih =>
    obtain ⟨pieces, divides, rendered⟩ := ih
    refine ⟨_, divides.keep ?_, congrArg (openBrace :: ·) rendered⟩
    intro inside after name same stands
    have behind : rest = inside ++ closeBrace :: after := by simpa [block] using same
    rw [block?_eq_some_iff.mpr ⟨inside, behind, stands⟩] at missing
    cases missing
  | case4 c rest differs ih =>
    obtain ⟨pieces, divides, rendered⟩ := ih
    refine ⟨_, divides.keep ?_, congrArg (c :: ·) rendered⟩
    intro inside after name same
    exact absurd (List.cons.inj same).1 differs

/-- **Rendering fills exactly the blocks that stand for a name.** Whatever the template and the
names: there is one way to divide the template so that every block that stands for a name is filled
and everything else stays, and rendering writes the pieces down in order. -/
theorem render_fills_exactly_the_blocks (template : String) (names : List String) :
    ∃ pieces, Divides names template.toList pieces ∧
      (∀ others, Divides names template.toList others → others = pieces) ∧
      render template names = String.ofList (pieces.flatMap Piece.result) := by
  obtain ⟨pieces, divides, rendered⟩ := exists_divides names template.toList
  exact ⟨pieces, divides, fun others other => other.unique divides, by rw [render, rendered]⟩

/-- Signed, nested, unclosed and out of range, and a name that looks like a block. -/
example : render "\x7b+01\x7d\x7b\x7b0\x7d\x7b2\x7d\x7b-0\x7d\x7b\x7d\x7b0" ["a", "\x7b0\x7d"] =
    "\x7b0\x7d\x7ba\x7b2\x7d\x7b-0\x7d\x7b\x7d\x7b0" := by decide +kernel

end NameAssignment.Rendering
