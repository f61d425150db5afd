import NameAssignment.Handle

/-!
Tables keyed by handle: a partial map from the slots of one arena to values.

The values sit in an array at their handle's index and the number of filled slots is kept beside
it. Empty slots at the end are padding: they come from a capacity given in advance or from a far
handle, and two tables that differ in padding only are equal under `==`.
-/

namespace NameAssignment

/-- A partial map from the handles of `arena`. -/
structure Table (arena : Arena) (α : Type) where
  slots : Array (Option α)
  count : Nat

namespace Table

variable {arena : Arena} {α : Type}

/-- No entries, and room for `capacity` handles. -/
def withCapacity (capacity : Nat) : Table arena α :=
  ⟨Array.replicate capacity none, 0⟩

def empty : Table arena α := withCapacity 0

def get? (table : Table arena α) (handle : Handle arena) : Option α :=
  table.slots[handle.index]?.join

def contains (table : Table arena α) (handle : Handle arena) : Bool :=
  (table.get? handle).isSome

def size (table : Table arena α) : Nat := table.count

def isEmpty (table : Table arena α) : Bool := table.count == 0

/-- The slots, padded so that `handle` has one. -/
def room (table : Table arena α) (handle : Handle arena) : Array (Option α) :=
  table.slots ++ Array.replicate (handle.index + 1 - table.slots.size) none

/-- Stores `value` and gives back what it displaced. -/
def replace (table : Table arena α) (handle : Handle arena) (value : α) :
    Option α × Table arena α :=
  let previous := table.get? handle
  (previous, ⟨(table.room handle).setIfInBounds handle.index (some value),
    if previous.isSome then table.count else table.count + 1⟩)

def insert (table : Table arena α) (handle : Handle arena) (value : α) : Table arena α :=
  (table.replace handle value).2

/-- The entries in handle order. -/
def entries (table : Table arena α) : List (Handle arena × α) :=
  table.slots.toList.zipIdx.filterMap fun (slot, index) => slot.map ((⟨index⟩, ·))

/-- Padding does not count: the same number of entries, and the same entries. -/
instance [BEq α] : BEq (Table arena α) where
  beq a b := a.count == b.count && a.entries == b.entries

@[simp] theorem get?_withCapacity (capacity : Nat) (handle : Handle arena) :
    (withCapacity capacity : Table arena α).get? handle = none := by
  simp only [get?, withCapacity, Array.getElem?_replicate]
  split <;> rfl

@[simp] theorem get?_empty (handle : Handle arena) :
    (empty : Table arena α).get? handle = none :=
  get?_withCapacity 0 handle

/-- A stored value is found under its own handle and disturbs no other. -/
theorem get?_insert (table : Table arena α) (handle other : Handle arena) (value : α) :
    (table.insert handle value).get? other =
      if handle = other then some value else table.get? other := by
  have grown : handle.index < (table.room handle).size := by
    simp [room]; omega
  simp only [insert, replace, get?, Array.getElem?_setIfInBounds]
  by_cases same : handle.index = other.index
  · obtain rfl : handle = other := Handle.ext_index same
    simp [grown]
  · have differ : handle ≠ other := fun equal => same (equal ▸ rfl)
    simp only [same, differ, if_false, room, Array.getElem?_append]
    split
    · rfl
    · rename_i beyond
      have outside : table.slots[other.index]? = none := by simp; omega
      simp only [outside, Array.getElem?_replicate]
      split <;> rfl

@[simp] theorem fst_replace (table : Table arena α) (handle : Handle arena) (value : α) :
    (table.replace handle value).1 = table.get? handle := rfl

end Table

end NameAssignment
