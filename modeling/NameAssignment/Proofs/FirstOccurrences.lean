import Mathlib.Order.MinMax
import NameAssignment.Proofs.Handles

/-! A set of handles is the list of what was added, without later duplicates. Equality of sets also
compares their flags, and the row of flags only ever grows as far as a new member needs it. So it
reaches exactly to the largest member, in whatever order the members came, and sets that read alike
are equal. -/
namespace NameAssignment.OrderedSet
variable {arena : Arena}

/-- How many flags are needed for a list of handles. -/
def reach (handles : List (Handle arena)) : Nat :=
  handles.foldr (fun handle top => max (handle.index + 1) top) 0

/-- The reach of a list is one more than its largest index. -/
theorem lt_reach_iff {handles : List (Handle arena)} {bound : Nat} :
    bound < reach handles ↔ ∃ handle ∈ handles, bound ≤ handle.index := by
  induction handles with
  | nil => simp [reach]
  | cons handle rest ih =>
    rw [reach, List.foldr_cons, ← reach, lt_max_iff, ih, Nat.lt_succ_iff]
    simp only [List.mem_cons, exists_eq_or_imp]

/-- Handles that are the same reach equally far. -/
theorem reach_congr {handles others : List (Handle arena)}
    (same : ∀ handle, handle ∈ handles ↔ handle ∈ others) : reach handles = reach others := by
  apply eq_of_forall_lt_iff
  intro bound
  rw [lt_reach_iff, lt_reach_iff]
  simp only [same]

/-- The flags agree with the list, and there are just as many as it needs. -/
structure Tight (set : OrderedSet arena) : Prop extends set.Lawful where
  reaches : set.present.size = reach set.toList

theorem tight_empty : (empty : OrderedSet arena).Tight := ⟨lawful_empty, rfl⟩

/-- A member has a flag. -/
theorem lt_size_of_contains {set : OrderedSet arena} (known : set.contains handle = true) :
    handle.index < set.present.size := by
  by_contra outside
  rw [contains, Array.getElem?_eq_none (Nat.le_of_not_lt outside)] at known
  cases known

/-- A new member gets a flag, and so do the handles before it. -/
theorem size_present_insert (set : OrderedSet arena) (handle : Handle arena) :
    (set.insert handle).present.size = max (handle.index + 1) set.present.size := by
  cases known : set.contains handle with
  | true =>
    have inside := lt_size_of_contains known
    rw [insert_of_contains known]
    omega
  | false =>
    simp only [insert, add, known, Bool.false_eq_true, if_false, room, Array.size_setIfInBounds,
      Array.size_append, Array.size_replicate]
    omega

theorem tight_insert {set : OrderedSet arena} (tight : set.Tight) (handle : Handle arena) :
    (set.insert handle).Tight where
  toLawful := lawful_insert tight.toLawful handle
  reaches := by
    have members : reach (set.insert handle).toList = reach (handle :: set.toList) := by
      apply reach_congr
      intro other
      rw [mem_toList_insert tight.toLawful, List.mem_cons]
    rw [size_present_insert, tight.reaches, members]
    rfl

theorem tight_ofList (handles : List (Handle arena)) : (ofList handles).Tight := by
  suffices grown : ∀ set : OrderedSet arena, set.Tight → (handles.foldl insert set).Tight from
    grown empty tight_empty
  induction handles with
  | nil => exact fun _ tight => tight
  | cons handle rest ih => exact fun set tight => ih _ (tight_insert tight handle)

/-- What a set reads as determines its flags. -/
theorem Tight.eq_of_toList {first second : OrderedSet arena} (tight : first.Tight)
    (tightToo : second.Tight) (same : first.toList = second.toList) : first = second := by
  have size : first.present.size = second.present.size := by
    rw [tight.reaches, tightToo.reaches, same]
  have known (handle : Handle arena) : first.contains handle = second.contains handle := by
    rw [Bool.eq_iff_iff, ← tight.listed, ← tightToo.listed, same]
  have flags : first.present = second.present := by
    apply Array.ext size
    intro index inside insideToo
    simpa [contains, inside, insideToo] using known ⟨index⟩
  obtain ⟨order, present⟩ := first
  obtain rfl : present = second.present := flags
  obtain rfl : order = second.order := same
  rfl

theorem contains_ofList (handles : List (Handle arena)) (handle : Handle arena) :
    (ofList handles).contains handle = decide (handle ∈ handles) := by
  rw [Bool.eq_iff_iff, ← (lawful_ofList handles).listed, mem_toList_ofList, decide_eq_true_eq]

/-- **A set keeps first occurrences.** Whatever handles are added in turn, another one is told to be
new exactly if it is not among them; the members are the handles added; the set reads as the list of
them without later duplicates; there are as many flags as the largest handle needs; and two such
sets are equal under `==`, flags included, if and only if they read alike. -/
theorem set_keeps_first_occurrences (handles : List (Handle arena)) :
    (∀ handle, (ofList handles).add handle =
      (decide (handle ∉ handles), ofList (handles ++ [handle]))) ∧
    (∀ handle, (ofList handles).contains handle = decide (handle ∈ handles)) ∧
    (ofList handles).toList = handles.eraseDups ∧
    (ofList handles).present.size = reach handles ∧
    ∀ others, (ofList handles == ofList others) = true ↔
      (ofList handles).toList = (ofList others).toList := by
  refine ⟨?_, contains_ofList handles, toList_ofList handles, ?_, ?_⟩
  · intro handle
    apply Prod.ext
    · rw [fst_add, contains_ofList, decide_not]
    · simp only [ofList, List.foldl_append, List.foldl_cons, List.foldl_nil, insert]
  · rw [(tight_ofList handles).reaches]
    exact reach_congr (mem_toList_ofList handles)
  · intro others
    rw [beq_iff_eq]
    exact ⟨congrArg toList, (tight_ofList handles).eq_of_toList (tight_ofList others)⟩

/-- The set tells in which order its members came first. -/
example : (ofList [⟨9⟩, ⟨2⟩, ⟨9⟩] : OrderedSet .namespaces) = ofList [⟨9⟩, ⟨9⟩, ⟨2⟩] ∧
    (ofList [⟨9⟩, ⟨2⟩] : OrderedSet .namespaces) ≠ ofList [⟨2⟩, ⟨9⟩] := by
  decide

end NameAssignment.OrderedSet
