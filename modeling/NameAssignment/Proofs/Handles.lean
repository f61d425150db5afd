import NameAssignment.Handle.OrderedSet
import NameAssignment.Handle.Table

/-! Handle sets answer membership by flags and are read through their order list. The two agree for
every set that the operations build, so a proof may use whichever is at hand. -/
namespace NameAssignment

/-- Where no key comes twice, an entry is found if and only if it is listed. -/
theorem lookup_eq_some_iff_mem {κ α : Type} [BEq κ] [LawfulBEq κ] {entries : List (κ × α)}
    {key : κ} {value : α} (once : (entries.map Prod.fst).Nodup) :
    entries.lookup key = some value ↔ (key, value) ∈ entries := by
  rw [List.lookup_eq_some_iff]
  constructor
  · rintro ⟨earlier, later, rfl, -⟩
    simp
  · intro listed
    obtain ⟨earlier, later, rfl⟩ := List.append_of_mem listed
    refine ⟨earlier, later, rfl, fun entry before => ?_⟩
    rw [List.map_append, List.nodup_append] at once
    have differ : entry.1 ≠ key := once.2.2 _ (List.mem_map_of_mem before) _ (by simp)
    simpa using Ne.symm differ

namespace Handle
variable {arena : Arena}

/-- The handles of the first slots of an arena. -/
theorem mem_map_range {size : Nat} {handle : Handle arena} :
    handle ∈ (List.range size).map mk ↔ handle.index < size := by
  rw [List.mem_map]
  constructor
  · rintro ⟨index, inside, rfl⟩
    exact List.mem_range.mp inside
  · intro below
    exact ⟨handle.index, List.mem_range.mpr below, rfl⟩

theorem nodup_map_range (size : Nat) :
    ((List.range size).map mk : List (Handle arena)).Nodup :=
  List.Pairwise.map mk (fun _ _ differ same => differ (congrArg index same)) List.nodup_range

end Handle

namespace OrderedSet
variable {arena : Arena}

/-- The flags and the order list have the same members, and the list names each of them once. -/
structure Lawful (set : OrderedSet arena) : Prop where
  listed : ∀ handle, handle ∈ set.toList ↔ set.contains handle = true
  once : set.toList.Nodup

theorem lawful_empty : (empty : OrderedSet arena).Lawful :=
  ⟨fun handle => by simp [toList, empty, contains], List.nodup_nil⟩

/-- Inserting a member changes nothing. -/
theorem insert_of_contains {set : OrderedSet arena} (known : set.contains handle = true) :
    set.insert handle = set := by
  simp [insert, add, known]

theorem lawful_insert {set : OrderedSet arena} (lawful : set.Lawful) (handle : Handle arena) :
    (set.insert handle).Lawful := by
  cases known : set.contains handle with
  | true =>
    rw [insert_of_contains known]
    exact lawful
  | false =>
    have absent : handle ∉ set.toList := by simp [lawful.listed, known]
    constructor
    · intro other
      rw [toList_insert, contains_insert]
      simp only [known, Bool.false_eq_true, if_false, List.mem_append, List.mem_singleton,
        lawful.listed, Bool.or_eq_true, decide_eq_true_eq]
      grind
    · rw [toList_insert]
      simp only [known, Bool.false_eq_true, if_false]
      exact List.nodup_append.mpr ⟨lawful.once, by simp, by grind⟩

theorem lawful_ofList (handles : List (Handle arena)) : (ofList handles).Lawful := by
  suffices grown : ∀ set : OrderedSet arena, set.Lawful → (handles.foldl insert set).Lawful from
    grown empty lawful_empty
  induction handles with
  | nil => exact fun _ lawful => lawful
  | cons handle rest ih => exact fun set lawful => ih _ (lawful_insert lawful handle)

/-- Inserting a list adds its members. -/
theorem contains_foldl_insert (set : OrderedSet arena) (handles : List (Handle arena))
    (other : Handle arena) : (handles.foldl insert set).contains other = true ↔
      other ∈ handles ∨ set.contains other = true := by
  induction handles generalizing set with
  | nil => simp
  | cons handle rest ih =>
    rw [List.foldl_cons, ih, contains_insert, Bool.or_eq_true, decide_eq_true_eq, List.mem_cons]
    grind

/-- Inserting members changes nothing. -/
theorem foldl_insert_of_contains {set : OrderedSet arena} {handles : List (Handle arena)}
    (known : ∀ handle ∈ handles, set.contains handle = true) : handles.foldl insert set = set := by
  induction handles with
  | nil => rfl
  | cons handle rest ih =>
    obtain ⟨here, later⟩ := List.forall_mem_cons.mp known
    rw [List.foldl_cons, insert_of_contains here, ih later]

/-- After an insertion the list has the old members and the new one. -/
theorem mem_toList_insert {set : OrderedSet arena} (lawful : set.Lawful)
    (handle other : Handle arena) :
    other ∈ (set.insert handle).toList ↔ other = handle ∨ other ∈ set.toList := by
  rw [(lawful_insert lawful handle).listed, contains_insert, lawful.listed, Bool.or_eq_true,
    decide_eq_true_eq, @eq_comm _ handle other]

/-- A set made from a list has exactly the members of the list. -/
theorem mem_toList_ofList (handles : List (Handle arena)) (other : Handle arena) :
    other ∈ (ofList handles).toList ↔ other ∈ handles := by
  suffices grown : ∀ set : OrderedSet arena, set.Lawful →
      (other ∈ (handles.foldl insert set).toList ↔ other ∈ set.toList ∨ other ∈ handles) by
    have outside : other ∉ (empty : OrderedSet arena).toList := by simp [toList, empty]
    exact (grown empty lawful_empty).trans (or_iff_right outside)
  induction handles with
  | nil => intro set _; simp
  | cons handle rest ih =>
    intro set lawful
    rw [List.foldl_cons, ih _ (lawful_insert lawful handle), mem_toList_insert lawful]
    grind

/-- A set made from a list reads as the list does without repetitions. -/
theorem toList_ofList (handles : List (Handle arena)) :
    (ofList handles).toList = handles.eraseDups := by
  suffices grown : ∀ set : OrderedSet arena, (handles.foldl insert set).toList =
      set.toList ++ (handles.filter (!set.contains ·)).eraseDups by
    have whole := grown empty
    rw [List.filter_eq_self.mpr (by simp)] at whole
    exact whole
  induction handles with
  | nil => simp
  | cons handle rest ih =>
    intro set
    rw [List.foldl_cons, ih, toList_insert]
    cases known : set.contains handle with
    | true => simp [known, insert_of_contains known]
    | false =>
      have others : rest.filter (!(set.insert handle).contains ·) =
          (rest.filter (!set.contains ·)).filter (!· == handle) := by
        rw [List.filter_filter]
        apply List.filter_congr
        intro other _
        rw [contains_insert, Bool.not_or, Bool.beq_comm]
        rfl
      simp [known, others, List.eraseDups_cons]

end OrderedSet

namespace Table
variable {arena : Arena} {α : Type}

theorem contains_insert (table : Table arena α) (handle other : Handle arena) (value : α) :
    (table.insert handle value).contains other =
      (decide (handle = other) || table.contains other) := by
  by_cases same : handle = other <;> simp [contains, get?_insert, same]

theorem contains_eq_true_iff (table : Table arena α) (handle : Handle arena) :
    table.contains handle = true ↔ ∃ value, table.get? handle = some value :=
  Option.isSome_iff_exists

theorem contains_eq_false_iff (table : Table arena α) (handle : Handle arena) :
    table.contains handle = false ↔ table.get? handle = none := by
  simp [contains]

/-- The entries are what is found. -/
theorem mem_entries_iff (table : Table arena α) (handle : Handle arena) (value : α) :
    (handle, value) ∈ table.entries ↔ table.get? handle = some value := by
  rw [entries, List.mem_filterMap, get?, Option.join_eq_some_iff, ← Array.getElem?_toList]
  constructor
  · rintro ⟨⟨slot, index⟩, listed, same⟩
    obtain ⟨found, rfl, same⟩ := Option.map_eq_some_iff.mp same
    cases same
    exact List.mem_zipIdx_iff_getElem?.mp listed
  · intro found
    exact ⟨(some value, handle.index), List.mem_zipIdx_iff_getElem?.mpr found, rfl⟩

/-- They are listed in the order of their handles, each handle once. -/
theorem entries_increasing (table : Table arena α) :
    table.entries.Pairwise fun earlier later => earlier.1.index < later.1.index := by
  have positions : (table.slots.toList.zipIdx.map Prod.snd).Pairwise (· < ·) := by
    rw [List.zipIdx_map_snd]
    exact List.pairwise_lt_range'
  apply (List.pairwise_map.mp positions).filterMap
  rintro ⟨slot, index⟩ ⟨other, later⟩ below entry same ⟨handle, value⟩ again
  obtain ⟨_, -, rfl⟩ := Option.map_eq_some_iff.mp same
  obtain ⟨_, -, ends⟩ := Option.map_eq_some_iff.mp again
  cases ends
  exact below

theorem mem_keys_iff (table : Table arena α) (handle : Handle arena) :
    handle ∈ table.entries.map Prod.fst ↔ table.contains handle = true := by
  rw [contains_eq_true_iff, List.mem_map]
  constructor
  · rintro ⟨⟨_, value⟩, listed, rfl⟩
    exact ⟨value, (mem_entries_iff ..).mp listed⟩
  · rintro ⟨value, found⟩
    exact ⟨(handle, value), (mem_entries_iff ..).mpr found, rfl⟩

theorem nodup_keys (table : Table arena α) : (table.entries.map Prod.fst).Nodup := by
  apply List.pairwise_map.mpr
  apply table.entries_increasing.imp
  intro earlier later below same
  rw [same] at below
  exact Nat.lt_irrefl _ below

end Table

end NameAssignment
