import NameAssignment.Handle

/-!
Sets of handles that remember the order in which their members were first added.

Membership is answered by a row of flags, one for every index up to the largest member's, so
adding is cheap while the order list stays the set's reading order.
-/

namespace NameAssignment

/-- A set of handles in order of first insertion. -/
structure OrderedSet (arena : Arena) where
  order : List (Handle arena)
  present : Array Bool
  deriving DecidableEq

namespace OrderedSet

variable {arena : Arena}

def empty : OrderedSet arena := ⟨[], #[]⟩

def contains (set : OrderedSet arena) (handle : Handle arena) : Bool :=
  set.present[handle.index]?.getD false

def toList (set : OrderedSet arena) : List (Handle arena) := set.order

def size (set : OrderedSet arena) : Nat := set.order.length

def isEmpty (set : OrderedSet arena) : Bool := set.order.isEmpty

/-- The flags, extended so that `handle` has one. -/
def room (set : OrderedSet arena) (handle : Handle arena) : Array Bool :=
  set.present ++ Array.replicate (handle.index + 1 - set.present.size) false

/-- Adds a handle at the end unless it is a member, and says whether it was added. -/
def add (set : OrderedSet arena) (handle : Handle arena) : Bool × OrderedSet arena :=
  if set.contains handle then (false, set)
  else (true, ⟨set.order ++ [handle], (set.room handle).setIfInBounds handle.index true⟩)

def insert (set : OrderedSet arena) (handle : Handle arena) : OrderedSet arena :=
  (set.add handle).2

/-- The members of a list, each at the place of its first occurrence. -/
def ofList (handles : List (Handle arena)) : OrderedSet arena :=
  handles.foldl insert empty

@[simp] theorem contains_empty (handle : Handle arena) :
    (empty : OrderedSet arena).contains handle = false := by
  simp [contains, empty]

@[simp] theorem fst_add (set : OrderedSet arena) (handle : Handle arena) :
    (set.add handle).1 = !set.contains handle := by
  cases known : set.contains handle <;> simp [add, known]

/-- Adding a handle makes it a member and changes no other membership. -/
theorem contains_insert (set : OrderedSet arena) (handle other : Handle arena) :
    (set.insert handle).contains other = (decide (handle = other) || set.contains other) := by
  cases known : set.contains handle with
  | true =>
    by_cases same : handle = other
    · simp [insert, add, known, ← same]
    · simp [insert, add, known, same]
  | false =>
    have grown : handle.index < (set.room handle).size := by
      simp [room]; omega
    simp only [insert, add, known, Bool.false_eq_true, if_false]
    simp only [contains, Array.getElem?_setIfInBounds]
    by_cases same : handle.index = other.index
    · obtain rfl : handle = other := Handle.ext_index same
      simp [grown]
    · have differ : handle ≠ other := fun equal => same (equal ▸ rfl)
      simp only [same, differ, if_false, decide_false, Bool.false_or, room,
        Array.getElem?_append]
      split
      · rfl
      · rename_i beyond
        have outside : set.present[other.index]? = none := by simp; omega
        simp only [outside, Array.getElem?_replicate]
        split <;> rfl

/-- A new member goes to the end; a known one changes nothing. -/
theorem toList_insert (set : OrderedSet arena) (handle : Handle arena) :
    (set.insert handle).toList =
      if set.contains handle then set.toList else set.toList ++ [handle] := by
  cases known : set.contains handle <;> simp [insert, add, toList, known]

end OrderedSet

end NameAssignment
