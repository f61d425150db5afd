import NameAssignment.Names.Map

/-!
Finite sets of names. Like the maps they are built on they have one representation, so a function
of a `NameSet` depends on nothing but which names are in it.
-/

namespace NameAssignment

/-- A finite set of names. -/
structure NameSet where
  members : NameMap Unit
  deriving DecidableEq

namespace NameSet

def empty : NameSet := ⟨.empty⟩

instance : Inhabited NameSet := ⟨empty⟩

def insert (set : NameSet) (name : String) : NameSet := ⟨set.members.insert name ()⟩

def insertAll (set : NameSet) (names : List String) : NameSet := names.foldl insert set

def ofList (names : List String) : NameSet := empty.insertAll names

def contains (set : NameSet) (name : String) : Bool := set.members.contains name

/-- The names in increasing order of code points. -/
def toList (set : NameSet) : List String := set.members.entries.map (·.1)

def size (set : NameSet) : Nat := set.members.size

@[simp] theorem contains_empty (name : String) : empty.contains name = false := rfl

theorem contains_insert (set : NameSet) (name other : String) :
    (set.insert name).contains other = (decide (other = name) || set.contains other) := by
  by_cases same : other = name <;>
    simp [contains, insert, NameMap.contains, NameMap.get?_insert, same]

theorem contains_insertAll (set : NameSet) (names : List String) (other : String) :
    (set.insertAll names).contains other = (decide (other ∈ names) || set.contains other) := by
  induction names generalizing set with
  | nil => simp [insertAll]
  | cons name rest ih =>
    rw [insertAll, List.foldl_cons, ← insertAll, ih, contains_insert]
    by_cases here : other = name <;> simp [here]

/-- A set made from a list holds exactly what is in the list. -/
theorem contains_ofList (names : List String) (other : String) :
    (ofList names).contains other = decide (other ∈ names) := by
  simp [ofList, contains_insertAll]

end NameSet

end NameAssignment
