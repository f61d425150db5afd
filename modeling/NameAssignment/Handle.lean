/-!
Handles: positions in the arenas that hold namespaces, entities and naming functions.

Two handles are the same exactly when they point at the same slot of the same arena, so nothing
in the library ever compares what the slots hold. A handle says nothing about whether its slot is
filled; whether it *dangles* is a question to the graph.
-/

namespace NameAssignment

/-- The three arenas a handle can point into. -/
inductive Arena
  | namespaces
  | entities
  | functions
  deriving DecidableEq, Repr

/-- What a handle's short text starts with. -/
def Arena.tag : Arena → String
  | .namespaces => "ns"
  | .entities => "named"
  | .functions => "namer"

/-- What a handle's long text starts with. -/
def Arena.longTag : Arena → String
  | .namespaces => "NamespaceId"
  | .entities => "NamedId"
  | .functions => "NamerId"

/-- A position in an arena. The arena is part of the type, so handles of two arenas never mix. -/
structure Handle (arena : Arena) where
  index : Nat
  deriving DecidableEq, Repr

abbrev NamespaceRef := Handle .namespaces
abbrev EntityRef := Handle .entities
abbrev FunctionRef := Handle .functions

namespace Handle

variable {arena : Arena}

/-- How many slots of an arena can be addressed: as many as 32 bits can count. -/
def capacity : Nat := 4294967296

/-- The handle of a slot, if the slot can be addressed. -/
def ofIndex? (index : Nat) : Option (Handle arena) :=
  if index < capacity then some ⟨index⟩ else none

/-- Said of a slot that cannot be addressed. -/
def exhausted : String := "arena exceeds u32::MAX handles"

/-- The short text used in messages, such as `ns#3`. -/
def text (handle : Handle arena) : String :=
  arena.tag ++ "#" ++ toString handle.index

/-- The long text used when a record is shown in full, such as `NamespaceId(3)`. -/
def longText (handle : Handle arena) : String :=
  arena.longTag ++ "(" ++ toString handle.index ++ ")"

theorem ext_index {a b : Handle arena} (same : a.index = b.index) : a = b := by
  cases a; cases b; simp_all

theorem ofIndex?_eq_some_iff {index : Nat} {handle : Handle arena} :
    ofIndex? index = some handle ↔ index < capacity ∧ handle = ⟨index⟩ := by
  by_cases inRange : index < capacity <;> simp [ofIndex?, inRange, eq_comm]

end Handle

end NameAssignment
