/-!
Grouping a list by a key, in order of first appearance.
-/

namespace NameAssignment

/-- The members of a list by key: keys in order of first appearance, and under each key its
members in list order. -/
def groupByKey {α κ : Type} [DecidableEq κ] (key : α → κ) (xs : List α) : List (κ × List α) :=
  (xs.map key).eraseDups.map fun k => (k, xs.filter (key · = k))

end NameAssignment
