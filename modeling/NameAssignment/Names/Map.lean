/-!
Finite maps keyed by text, read in the order of their keys.

The entries are a list in strictly increasing key order. A map therefore has one representation:
two maps with the same look-ups are equal, and whatever walks over the entries sees them sorted by
code point.
-/

namespace NameAssignment

universe u

/-- A finite map from names. -/
structure NameMap (α : Type u) where
  entries : List (String × α)
  increasing : entries.Pairwise (fun earlier later => earlier.1 < later.1)

namespace NameMap

variable {α : Type u}

def empty : NameMap α := ⟨[], .nil⟩

instance : Inhabited (NameMap α) := ⟨empty⟩

instance [DecidableEq α] : DecidableEq (NameMap α) := fun a b =>
  if same : a.entries = b.entries then isTrue (by cases a; cases b; simp_all)
  else isFalse fun equal => same (equal ▸ rfl)

/-- Puts an entry at its place in a sorted list, in place of one with the same key. -/
def insertEntry (key : String) (value : α) : List (String × α) → List (String × α)
  | [] => [(key, value)]
  | entry :: rest =>
    if key < entry.1 then (key, value) :: entry :: rest
    else if key = entry.1 then (key, value) :: rest
    else entry :: insertEntry key value rest

theorem mem_insertEntry {key : String} {value : α} {entries : List (String × α)}
    {entry : String × α} (member : entry ∈ insertEntry key value entries) :
    entry = (key, value) ∨ entry ∈ entries := by
  induction entries with
  | nil => simpa [insertEntry] using member
  | cons head rest ih =>
    unfold insertEntry at member
    split at member
    · simpa using member
    · split at member <;> simp only [List.mem_cons] at member ⊢
      · rcases member with member | member <;> simp [member]
      · rcases member with member | member
        · simp [member]
        · rcases ih member with member | member <;> simp [member]

theorem pairwise_insertEntry {key : String} {value : α} {entries : List (String × α)}
    (increasing : entries.Pairwise (fun earlier later => earlier.1 < later.1)) :
    (insertEntry key value entries).Pairwise (fun earlier later => earlier.1 < later.1) := by
  induction entries with
  | nil => simp [insertEntry]
  | cons head rest ih =>
    have ⟨headFirst, restIncreasing⟩ := List.pairwise_cons.1 increasing
    unfold insertEntry
    split
    · rename_i below
      refine List.pairwise_cons.2 ⟨fun entry member => ?_, increasing⟩
      rcases List.mem_cons.1 member with equal | member
      · exact equal ▸ below
      · exact String.lt_trans below (headFirst entry member)
    · split
      · rename_i same
        exact List.pairwise_cons.2
          ⟨fun entry member => same ▸ headFirst entry member, restIncreasing⟩
      · rename_i notBelow differ
        refine List.pairwise_cons.2 ⟨fun entry member => ?_, ih restIncreasing⟩
        rcases mem_insertEntry member with equal | member
        · subst equal
          have atMost : head.1 ≤ key := String.not_lt.1 notBelow
          refine Decidable.byContradiction fun notAbove => differ ?_
          exact String.le_antisymm (String.not_lt.1 notAbove) atMost
        · exact headFirst entry member

/-- Adds an entry; an older one with the same key is replaced. -/
def insert (map : NameMap α) (key : String) (value : α) : NameMap α :=
  ⟨insertEntry key value map.entries, pairwise_insertEntry map.increasing⟩

/-- The later of two entries with one key is kept. -/
def ofList (entries : List (String × α)) : NameMap α :=
  entries.foldl (fun map entry => map.insert entry.1 entry.2) empty

def get? (map : NameMap α) (key : String) : Option α := map.entries.lookup key

def contains (map : NameMap α) (key : String) : Bool := (map.get? key).isSome

def size (map : NameMap α) : Nat := map.entries.length

def isEmpty (map : NameMap α) : Bool := map.entries.isEmpty

@[simp] theorem get?_empty (key : String) : (empty : NameMap α).get? key = none := rfl

/-- Looking up a key tries the first entry, then the others. -/
theorem lookup_cons_eq (entry : String × α) (rest : List (String × α)) (key : String) :
    (entry :: rest).lookup key = if key = entry.1 then some entry.2 else rest.lookup key := by
  rw [List.lookup_cons]
  by_cases same : key = entry.1
  · simp [same]
  · have differ : (key == entry.1) = false := by simpa using same
    simp [differ, same]

theorem lookup_insertEntry (key other : String) (value : α) (entries : List (String × α)) :
    (insertEntry key value entries).lookup other =
      if other = key then some value else entries.lookup other := by
  induction entries with
  | nil => simp [insertEntry, lookup_cons_eq]
  | cons head rest ih =>
    unfold insertEntry
    split
    · exact lookup_cons_eq _ _ _
    · split
      · rename_i equal
        rw [lookup_cons_eq, lookup_cons_eq, equal]
        split <;> rfl
      · rename_i differ
        rw [lookup_cons_eq, ih, lookup_cons_eq]
        by_cases here : other = head.1
        · have apart : other ≠ key := fun same => differ (same ▸ here)
          rw [if_pos here, if_neg apart, if_pos here]
        · rw [if_neg here, if_neg here]

/-- A stored value is found under its own key and disturbs no other. -/
theorem get?_insert (map : NameMap α) (key other : String) (value : α) :
    (map.insert key value).get? other = if other = key then some value else map.get? other :=
  lookup_insertEntry key other value map.entries

end NameMap

end NameAssignment
