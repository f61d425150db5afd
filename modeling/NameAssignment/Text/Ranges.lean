/-!
Classes of characters given as ranges of code points.
-/

namespace NameAssignment

/-- A class of characters: inclusive ranges of code points. -/
abbrev CodeRanges := List (Nat × Nat)

/-- Whether some range of the class covers the character. -/
def CodeRanges.covers (ranges : CodeRanges) (c : Char) : Bool :=
  ranges.any fun range => range.1 ≤ c.toNat && c.toNat ≤ range.2

theorem CodeRanges.covers_iff {ranges : CodeRanges} {c : Char} :
    ranges.covers c = true ↔ ∃ range ∈ ranges, range.1 ≤ c.toNat ∧ c.toNat ≤ range.2 := by
  simp [covers]

end NameAssignment
