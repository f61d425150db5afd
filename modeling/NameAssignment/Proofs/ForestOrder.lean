import NameAssignment.Graph.Validity
import NameAssignment.Proofs.Preorder

/-! Where a child stands in the forest. Within a tree parents come first, since a tree is listed in
preorder. A namespace that is given as a root starts a tree of its own, however, and if nothing
above its parent was given before it, then it stands before its parent. There is no other way for it
to get there. -/
namespace NameAssignment.ForestOrder
open NameAssignment.Graph

section Lists
variable {α β : Type} {first second : α} {xs : List α}

/-- The first occurrence of `first` has no `second` before it. -/
def Leads (first second : α) (xs : List α) : Prop :=
  ∃ before after, xs = before ++ first :: after ∧ second ∉ before

theorem leads_of_mem (listed : first ∈ xs) (absent : second ∉ xs) : Leads first second xs := by
  obtain ⟨before, after, rfl⟩ := List.append_of_mem listed
  exact ⟨before, after, rfl, fun inside => absent (List.mem_append_left _ inside)⟩

theorem Leads.append (leads : Leads first second xs) (later : List α) :
    Leads first second (xs ++ later) := by
  obtain ⟨before, after, rfl, absent⟩ := leads
  exact ⟨before, after ++ later, by simp, absent⟩

theorem Leads.behind {earlier : List α} (leads : Leads first second xs)
    (absent : second ∉ earlier) : Leads first second (earlier ++ xs) := by
  obtain ⟨before, after, rfl, unmet⟩ := leads
  exact ⟨earlier ++ before, after, by simp, by simp [absent, unmet]⟩

/-- An element of a list of lists has a first list that it stands in. -/
theorem exists_first_of_mem_flatMap [DecidableEq β] {f : α → List β} {found : β}
    (listed : found ∈ xs.flatMap f) :
    ∃ before x after, xs = before ++ x :: after ∧ found ∈ f x ∧ found ∉ before.flatMap f := by
  cases search : xs.find? fun x => found ∈ f x with
  | none =>
    obtain ⟨x, inside, holds⟩ := List.mem_flatMap.mp listed
    exact absurd (decide_eq_true holds) (List.find?_eq_none.mp search x inside)
  | some x =>
    obtain ⟨holds, before, after, rfl, none⟩ := List.find?_eq_some_iff_append.mp search
    refine ⟨before, x, after, rfl, of_decide_eq_true holds, ?_⟩
    intro inside
    obtain ⟨y, earlier, holds⟩ := List.mem_flatMap.mp inside
    simpa [holds] using none y earlier

/-- What leads in a list leads when its repetitions are dropped. -/
theorem Leads.idxOf_lt [DecidableEq α] (leads : Leads first second xs) (differ : first ≠ second) :
    xs.eraseDups.idxOf first < xs.eraseDups.idxOf second := by
  obtain ⟨before, after, rfl, absent⟩ := leads
  have here : first ∈ (before ++ [first]).eraseDups := by simp
  have notHere : second ∉ (before ++ [first]).eraseDups := by simp [absent, Ne.symm differ]
  rw [List.append_cons, List.eraseDups_append, List.idxOf_append_of_mem here,
    List.idxOf_append_of_notMem notHere]
  exact Nat.lt_of_lt_of_le (List.idxOf_lt_length_iff.mpr here) (Nat.le_add_right _ _)

end Lists

variable {graph : Graph} {roots forest : List NamespaceRef} {child parent : NamespaceRef}

/-- The child is given as a root, and no root given before it is above its parent. -/
def GivenFirst (graph : Graph) (roots : List NamespaceRef) (child parent : NamespaceRef) : Prop :=
  ∃ before after, roots = before ++ child :: after ∧ ∀ root ∈ before, ¬ graph.Below root parent

section
variable (ascending : ∀ {space child}, child ∈ graph.children space → space.index ≤ child.index)
include ascending

/-- In the tree of another namespace a child is met after its parent. The first subtree that it
stands in is not its own, unless its parent is on top of the tree. -/
theorem leads_preorder (linked : graph.Linked) (born : graph.parent? child = some parent)
    (differ : child ≠ space) (listed : child ∈ graph.preorder space) :
    Leads parent child (graph.preorder space) := by
  induction space using preorder.induct graph with
  | case1 space ih =>
    rw [preorder_eq ascending] at listed ⊢
    have inside := (List.mem_cons.mp listed).resolve_left differ
    by_cases top : space = parent
    · subst top
      exact ⟨[], _, rfl, List.not_mem_nil⟩
    · obtain ⟨before, kid, after, split, inKid, unmet⟩ := exists_first_of_mem_flatMap inside
      have among : kid ∈ (graph.children space).filter (· ≠ space) := by
        rw [split]
        exact List.mem_append_right _ List.mem_cons_self
      obtain ⟨bornKid, apart⟩ := List.mem_filter.mp among
      have other : child ≠ kid := by
        rintro rfl
        exact top (Option.some.inj ((linked.born bornKid).2.symm.trans born))
      have younger := (younger_iff ascending bornKid).mpr (by simpa using apart)
      have leads := ih kid (List.mem_filter.mpr ⟨bornKid, decide_eq_true younger⟩) other inKid
      rw [split, List.flatMap_append, List.flatMap_cons, ← List.cons_append]
      exact (leads.append _).behind (by simp [differ, unmet])

theorem mem_flatMap_preorder_iff {space : NamespaceRef} :
    space ∈ roots.flatMap graph.preorder ↔ ∃ root ∈ roots, graph.Below root space := by
  simp [mem_preorder_iff ascending]

/-- A child that is given first is met before its parent. -/
theorem GivenFirst.leads (given : GivenFirst graph roots child parent) :
    Leads child parent (roots.flatMap graph.preorder) := by
  obtain ⟨before, after, rfl, none⟩ := given
  have unmet : parent ∉ before.flatMap graph.preorder := by
    rw [mem_flatMap_preorder_iff ascending]
    rintro ⟨root, inside, above⟩
    exact none root inside above
  rw [List.flatMap_append, List.flatMap_cons, preorder_eq ascending, List.cons_append]
  exact ⟨_, _, rfl, unmet⟩

/-- Any other child is met after its parent: in the tree of the first root above it, or because the
parent was met with an earlier root. -/
theorem leads_of_not_givenFirst (linked : graph.Linked) (born : graph.parent? child = some parent)
    (listed : child ∈ roots.flatMap graph.preorder)
    (later : ¬ GivenFirst graph roots child parent) :
    Leads parent child (roots.flatMap graph.preorder) := by
  obtain ⟨before, root, after, rfl, inTree, unmet⟩ := exists_first_of_mem_flatMap listed
  rw [List.flatMap_append, List.flatMap_cons]
  by_cases met : parent ∈ before.flatMap graph.preorder
  · exact (leads_of_mem met unmet).append _
  · have differ : child ≠ root := by
      rintro rfl
      refine later ⟨before, after, rfl, fun other inside above => met ?_⟩
      exact (mem_flatMap_preorder_iff ascending).mpr ⟨other, inside, above⟩
    exact ((leads_preorder ascending linked born differ inTree).append _).behind unmet

end

/-- **A parent comes first unless its child is given first.** In the forest of any roots a parent
stands before its child, except where the child is itself a root and no root given before it is
above the parent. Then it is the child that stands first. -/
theorem parent_comes_first_iff (steps : List BuildStep) (roots forest : List NamespaceRef)
    (flattened : (ofSteps steps).flatten roots = .ok forest) (child parent : NamespaceRef)
    (born : (ofSteps steps).parent? child = some parent) (differ : parent ≠ child)
    (listed : child ∈ forest) :
    (forest.idxOf parent < forest.idxOf child ↔ ¬ GivenFirst (ofSteps steps) roots child parent) ∧
    (forest.idxOf child < forest.idxOf parent ↔ GivenFirst (ofSteps steps) roots child parent) := by
  have linked := linked_ofSteps steps
  have ascending : ∀ {space child}, child ∈ (ofSteps steps).children space →
      space.index ≤ child.index := index_le_of_mem_children steps
  have inOrder := flatten_eq_eraseDups ascending linked (roots_of_flatten flattened)
  obtain rfl := Except.ok.inj (flattened.symm.trans inOrder)
  rw [List.mem_eraseDups] at listed
  by_cases given : GivenFirst (ofSteps steps) roots child parent
  · have childFirst := (given.leads ascending).idxOf_lt (Ne.symm differ)
    exact ⟨iff_of_false (Nat.lt_asymm childFirst) (not_not_intro given),
      iff_of_true childFirst given⟩
  · have parentFirst :=
      (leads_of_not_givenFirst ascending linked born listed given).idxOf_lt differ
    exact ⟨iff_of_true parentFirst given, iff_of_false (Nat.lt_asymm parentFirst) given⟩

/-- A namespace with a child and a grandchild. -/
def lineage : List BuildStep := [
  .space { name := "outer" },
  .space { name := "inner", parent := some ⟨0⟩ },
  .space { name := "deep", parent := some ⟨1⟩ }]

/-- The grandchild is a root, and is given before its parent, but after one above its parent. -/
theorem deep_follows_inner :
    (ofSteps lineage).flatten [⟨0⟩, ⟨2⟩, ⟨1⟩] = .ok [⟨0⟩, ⟨1⟩, ⟨2⟩] ∧
      ¬ GivenFirst (ofSteps lineage) [⟨0⟩, ⟨2⟩, ⟨1⟩] ⟨2⟩ ⟨1⟩ := by
  have flattened : (ofSteps lineage).flatten [⟨0⟩, ⟨2⟩, ⟨1⟩] = .ok [⟨0⟩, ⟨1⟩, ⟨2⟩] := by
    decide +kernel
  exact ⟨flattened, (parent_comes_first_iff lineage [⟨0⟩, ⟨2⟩, ⟨1⟩] _ flattened ⟨2⟩ ⟨1⟩ rfl
    (by decide) (by decide)).1.mp (by decide)⟩

/-- An accepted graph and known roots are not enough: a child that is given before its parent stands
before it. -/
theorem inner_overtakes_outer : ∃ forest, (ofSteps lineage).validate = .ok () ∧
    (∀ root ∈ [⟨1⟩, ⟨0⟩], ((ofSteps lineage).namespace? root).isSome = true) ∧
    (ofSteps lineage).flatten [⟨1⟩, ⟨0⟩] = .ok forest ∧
    (ofSteps lineage).parent? ⟨1⟩ = some ⟨0⟩ ∧ ⟨0⟩ ∈ forest ∧ ⟨1⟩ ∈ forest ∧
    forest.idxOf ⟨1⟩ < forest.idxOf ⟨0⟩ :=
  ⟨[⟨1⟩, ⟨2⟩, ⟨0⟩], by decide +kernel, by decide, by decide +kernel, rfl, by decide, by decide,
    by decide⟩

end NameAssignment.ForestOrder
