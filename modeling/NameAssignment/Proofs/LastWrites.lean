import Mathlib.Data.Finset.Card
import Mathlib.Data.List.Sort
import NameAssignment.Proofs.Handles

/-! A table is the partial map of what was written last. The slots grow on demand and may be padded,
and the number of entries is counted apart from them; but the count is always that of the entries,
the entries are what is found, and they stand in the order of their handles. So nothing that can be
asked of a table tells more than which value was written last under which handle: neither the
capacity it was made with nor the order of the writes. -/
namespace NameAssignment

namespace Table
variable {arena : Arena} {α : Type}

/-- The value of the last entry with a handle. -/
def lastWritten (writes : List (Handle arena × α)) (handle : Handle arena) : Option α :=
  writes.reverse.lookup handle

/-- The table after a list of writes, one after the other. -/
def writeAll (table : Table arena α) (writes : List (Handle arena × α)) : Table arena α :=
  writes.foldl (fun table entry => table.insert entry.1 entry.2) table

theorem lastWritten_cons (entry : Handle arena × α) (rest : List (Handle arena × α))
    (handle : Handle arena) : lastWritten (entry :: rest) handle =
      (lastWritten rest handle).or (if entry.1 = handle then some entry.2 else none) := by
  rw [lastWritten, List.reverse_cons, List.lookup_append, lastWritten, List.lookup_cons]
  by_cases same : entry.1 = handle
  · simp [same]
  · have differ : (handle == entry.1) = false := by simpa using Ne.symm same
    simp [differ, same]

/-- Only the handles of the entries are written under. -/
theorem isSome_lastWritten_iff {writes : List (Handle arena × α)} {handle : Handle arena} :
    (lastWritten writes handle).isSome = true ↔ handle ∈ writes.map Prod.fst := by
  rw [lastWritten, List.lookup_isSome_iff, List.mem_map]
  simp only [beq_iff_eq, List.mem_reverse, @eq_comm _ handle]

/-- What is found is what was written last, or what was there before. -/
theorem get?_writeAll (table : Table arena α) (writes : List (Handle arena × α))
    (handle : Handle arena) :
    (table.writeAll writes).get? handle = (lastWritten writes handle).or (table.get? handle) := by
  induction writes generalizing table with
  | nil => simp [writeAll, lastWritten]
  | cons entry rest ih =>
    have later : (table.writeAll (entry :: rest)).get? handle =
        (lastWritten rest handle).or ((table.insert entry.1 entry.2).get? handle) := ih _
    rw [later, get?_insert, lastWritten_cons, Option.or_assoc]
    split <;> simp

/-! ### The count -/

/-- The number kept beside the slots is the number of entries. -/
def Counted (table : Table arena α) : Prop := table.count = table.entries.length

theorem counted_withCapacity (capacity : Nat) :
    (withCapacity capacity : Table arena α).Counted := by
  have none : (withCapacity capacity : Table arena α).entries = [] := by
    apply List.eq_nil_iff_forall_not_mem.mpr
    rintro ⟨handle, value⟩ listed
    have found := (mem_entries_iff ..).mp listed
    rw [get?_withCapacity] at found
    cases found
  rw [Counted, none]
  rfl

/-- A write adds its handle to the keys, unless it is one of them. -/
theorem counted_insert {table : Table arena α} (counted : table.Counted) (handle : Handle arena)
    (value : α) : (table.insert handle value).Counted := by
  have keys (other : Handle arena) : other ∈ (table.insert handle value).entries.map Prod.fst ↔
      handle = other ∨ other ∈ table.entries.map Prod.fst := by
    rw [mem_keys_iff, mem_keys_iff, contains_insert, Bool.or_eq_true, decide_eq_true_eq]
  have grown : (table.insert handle value).count =
      if table.contains handle then table.count else table.count + 1 := rfl
  rw [Counted, grown, counted, ← List.length_map Prod.fst, ← List.length_map Prod.fst]
  split
  · rename_i known
    apply List.Perm.length_eq
    apply (List.perm_ext_iff_of_nodup table.nodup_keys (nodup_keys _)).mpr
    intro other
    rw [keys, or_iff_right_of_imp]
    rintro rfl
    exact (table.mem_keys_iff handle).mpr known
  · rename_i fresh
    have absent : handle ∉ table.entries.map Prod.fst := mt (table.mem_keys_iff handle).mp fresh
    rw [← List.length_cons (a := handle)]
    apply List.Perm.length_eq
    apply (List.perm_ext_iff_of_nodup (List.nodup_cons.mpr ⟨absent, table.nodup_keys⟩)
      (nodup_keys _)).mpr
    intro other
    rw [keys, List.mem_cons, eq_comm]

theorem counted_writeAll {table : Table arena α} (counted : table.Counted)
    (writes : List (Handle arena × α)) : (table.writeAll writes).Counted := by
  induction writes generalizing table with
  | nil => exact counted
  | cons entry rest ih => exact ih (counted_insert counted entry.1 entry.2)

/-! ### Equality -/

/-- To be found is to be looked up among the entries. -/
theorem get?_eq_lookup (table : Table arena α) (handle : Handle arena) :
    table.get? handle = table.entries.lookup handle := by
  apply Option.ext
  intro value
  rw [← mem_entries_iff, lookup_eq_some_iff_mem table.nodup_keys]

/-- Lists of entries that are alike give alike look-ups. -/
theorem lookup_beq [BEq α] {first second : List (Handle arena × α)}
    (alike : (first == second) = true) (handle : Handle arena) :
    (first.lookup handle == second.lookup handle) = true := by
  induction first generalizing second with
  | nil =>
    cases second with
    | nil => rfl
    | cons other others => cases alike
  | cons entry rest ih =>
    cases second with
    | nil => cases alike
    | cons other others =>
      obtain ⟨here, later⟩ := Bool.and_eq_true_iff.mp alike
      obtain ⟨key, value⟩ := Bool.and_eq_true_iff.mp here
      rw [List.lookup_cons, List.lookup_cons, ← eq_of_beq key]
      split
      · exact value
      · exact ih later

/-- Tables in which alike is found have the same keys in the same order. -/
theorem map_fst_entries_eq [BEq α] {first second : Table arena α}
    (alike : ∀ handle, (first.get? handle == second.get? handle) = true) :
    first.entries.map Prod.fst = second.entries.map Prod.fst := by
  have increasing (table : Table arena α) :
      ((table.entries.map Prod.fst).map Handle.index).Pairwise (· < ·) := by
    rw [List.map_map]
    exact List.pairwise_map.mpr table.entries_increasing
  have known (handle : Handle arena) :
      handle ∈ first.entries.map Prod.fst ↔ handle ∈ second.entries.map Prod.fst := by
    have here := alike handle
    rw [mem_keys_iff, mem_keys_iff, contains, contains]
    cases found : first.get? handle <;> cases other : second.get? handle <;>
      simp [found, other] at here ⊢
  apply List.map_injective_iff.mpr fun _ _ => Handle.ext_index
  apply (increasing first).eq_of_mem_iff (increasing second)
  simp only [List.mem_map (f := Handle.index), known, implies_true]

/-- The entries are alike if and only if what is found is. -/
theorem entries_beq_iff [BEq α] {first second : Table arena α} :
    (first.entries == second.entries) = true ↔
      ∀ handle, (first.get? handle == second.get? handle) = true := by
  constructor
  · intro alike handle
    rw [get?_eq_lookup, get?_eq_lookup]
    exact lookup_beq alike handle
  · intro alike
    have keys := map_fst_entries_eq alike
    have length : first.entries.length = second.entries.length := by
      simpa using congrArg List.length keys
    rw [List.beq_eq_decide, dif_pos length, decide_eq_true_eq]
    intro position inside
    have key : first.entries[position].1 = second.entries[position].1 := by
      have places := congrArg (·[position]?) keys
      simpa [inside, length ▸ inside] using places
    have here : first.get? first.entries[position].1 = some first.entries[position].2 :=
      (mem_entries_iff ..).mp (List.getElem_mem inside)
    have there : second.get? second.entries[position].1 = some second.entries[position].2 :=
      (mem_entries_iff ..).mp (List.getElem_mem (length ▸ inside))
    have value := alike first.entries[position].1
    rw [here, key, there] at value
    exact Bool.and_eq_true_iff.mpr ⟨beq_iff_eq.mpr key, value⟩

/-- Tables are equal under `==` if and only if what is found is alike. -/
theorem beq_iff [BEq α] {first second : Table arena α} (counted : first.Counted)
    (countedToo : second.Counted) :
    (first == second) = true ↔ ∀ handle, (first.get? handle == second.get? handle) = true := by
  rw [← entries_beq_iff]
  constructor
  · intro same
    exact (Bool.and_eq_true_iff.mp same).2
  · intro alike
    have keys := map_fst_entries_eq (entries_beq_iff.mp alike)
    have count : first.count = second.count := by
      rw [counted, countedToo]
      simpa using congrArg List.length keys
    exact Bool.and_eq_true_iff.mpr ⟨beq_iff_eq.mpr count, alike⟩

/-! ### What a table tells -/

/-- The table made with some capacity and then written to. -/
def written (capacity : Nat) (writes : List (Handle arena × α)) : Table arena α :=
  (withCapacity capacity).writeAll writes

theorem get?_written (capacity : Nat) (writes : List (Handle arena × α)) (handle : Handle arena) :
    (written capacity writes).get? handle = lastWritten writes handle := by
  rw [written, get?_writeAll, get?_withCapacity, Option.or_none]

theorem counted_written (capacity : Nat) (writes : List (Handle arena × α)) :
    (written capacity writes).Counted :=
  counted_writeAll (counted_withCapacity capacity) writes

/-- As many entries are counted as handles have been written under. -/
theorem size_written (capacity : Nat) (writes : List (Handle arena × α)) :
    (written capacity writes).size = (writes.map Prod.fst).toFinset.card := by
  have same : ((written capacity writes).entries.map Prod.fst).toFinset =
      (writes.map Prod.fst).toFinset := by
    apply Finset.ext
    intro handle
    rw [List.mem_toFinset, List.mem_toFinset, mem_keys_iff, contains, get?_written,
      isSome_lastWritten_iff]
  rw [← same, List.toFinset_card_of_nodup (nodup_keys _), List.length_map]
  exact counted_written capacity writes

/-- **A table is the partial map of what was written last**, whatever its capacity was and whatever
was written. Another write gives back what was written under its handle before; what is found is
what was written last; the size is the number of handles written under; the entries are what is
found, in increasing order of handles; and two tables are equal under `==` if and only if alike was
written last under each handle, which is to say, where `==` is equality, if and only if they are the
same map. -/
theorem table_is_the_map_of_last_writes [BEq α] (capacity : Nat)
    (writes : List (Handle arena × α)) :
    (∀ handle value, (written capacity writes).replace handle value =
      (lastWritten writes handle, written capacity (writes ++ [(handle, value)]))) ∧
    (∀ handle, (written capacity writes).get? handle = lastWritten writes handle ∧
      ((written capacity writes).contains handle = true ↔ handle ∈ writes.map Prod.fst)) ∧
    (written capacity writes).size = (writes.map Prod.fst).toFinset.card ∧
    ((written capacity writes).entries.Pairwise
        fun earlier later => earlier.1.index < later.1.index) ∧
    (∀ handle value, (handle, value) ∈ (written capacity writes).entries ↔
      lastWritten writes handle = some value) ∧
    ∀ otherCapacity otherWrites,
      ((written capacity writes == written otherCapacity otherWrites) = true ↔
        ∀ handle, (lastWritten writes handle == lastWritten otherWrites handle) = true) ∧
      (LawfulBEq α → ((written capacity writes == written otherCapacity otherWrites) = true ↔
        lastWritten writes = lastWritten otherWrites)) := by
  have equal (otherCapacity : Nat) (otherWrites : List (Handle arena × α)) :
      (written capacity writes == written otherCapacity otherWrites) = true ↔
        ∀ handle, (lastWritten writes handle == lastWritten otherWrites handle) = true := by
    rw [beq_iff (counted_written ..) (counted_written ..)]
    simp only [get?_written]
  refine ⟨?_, ?_, size_written capacity writes, entries_increasing _, ?_, ?_⟩
  · intro handle value
    apply Prod.ext
    · exact get?_written capacity writes handle
    · simp only [written, writeAll, List.foldl_append, List.foldl_cons, List.foldl_nil, insert]
  · intro handle
    refine ⟨get?_written capacity writes handle, ?_⟩
    rw [contains, get?_written, isSome_lastWritten_iff]
  · intro handle value
    rw [mem_entries_iff, get?_written]
  · intro otherCapacity otherWrites
    refine ⟨equal otherCapacity otherWrites, fun lawful => ?_⟩
    rw [equal, funext_iff]
    simp only [beq_iff_eq]

/-- Two writes under one handle, in tables with and without padding and in another order. -/
example : (written 0 [(⟨5⟩, "e"), (⟨1⟩, "a"), (⟨5⟩, "f")] : Table .entities String) ==
    written 4 [(⟨1⟩, "a"), (⟨5⟩, "f")] := by
  decide

end Table

end NameAssignment
