import Mathlib.Logic.Relation
import NameAssignment.Proofs.Forest

/-! The forest is read off the roots by recursion: the preorder of each root's tree, one after the
other, with only the first occurrence of every namespace kept. The traversal gets there with a
stack, and passes over a namespace it meets again. That loses nothing, for whatever has been seen
has been seen with all that is below it, unless its children are still pending. -/
namespace NameAssignment.Graph

variable {graph : Graph} {roots : List NamespaceRef}

/-- The namespaces of a tree, parents before children and children in order of creation. No child
is older than its parent, so only a namespace that is its own child is left out. -/
def preorder (graph : Graph) (space : NamespaceRef) : List NamespaceRef :=
  space :: ((graph.children space).filter fun child => space.index < child.index).attach.flatMap
    fun ⟨child, _⟩ => preorder graph child
termination_by graph.namespaces.size - space.index
decreasing_by
  rename_i listed
  obtain ⟨born, younger⟩ := List.mem_filter.mp listed
  have below := namespace?_isSome_iff.mp (namespace?_of_child born)
  have later := of_decide_eq_true younger
  omega

/-- A namespace is reached from another through lists of children. -/
def Below (graph : Graph) : NamespaceRef → NamespaceRef → Prop :=
  Relation.ReflTransGen fun space child => child ∈ graph.children space

/-- Of what is below `space`, whatever is seen is seen with all that is below it. -/
def Complete (graph : Graph) (seen : OrderedSet .namespaces) (space : NamespaceRef) : Prop :=
  ∀ ⦃upper lower⦄, graph.Below space upper → seen.contains upper = true → graph.Below upper lower →
    seen.contains lower = true

theorem complete_empty (space : NamespaceRef) : graph.Complete .empty space :=
  fun _ _ _ seen => absurd seen (by simp)

section
variable (ascending : ∀ {space child}, child ∈ graph.children space → space.index ≤ child.index)
include ascending

/-! ### The tree below a namespace -/

theorem younger_iff (born : child ∈ graph.children space) :
    space.index < child.index ↔ child ≠ space := by
  have older := ascending born
  have same : child = space ↔ child.index = space.index :=
    ⟨fun equal => equal ▸ rfl, Handle.ext_index⟩
  rw [ne_eq, same]
  omega

theorem preorder_eq (space : NamespaceRef) : graph.preorder space =
    space :: ((graph.children space).filter (· ≠ space)).flatMap graph.preorder := by
  have kept : ((graph.children space).filter fun child => space.index < child.index) =
      (graph.children space).filter (· ≠ space) :=
    List.filter_congr fun child born => by simp [younger_iff ascending born]
  rw [preorder, List.flatMap_subtype (g := graph.preorder) (fun _ _ => rfl), List.unattach_attach,
    kept]

theorem mem_preorder_of_child (born : child ∈ graph.children space)
    (listed : lower ∈ graph.preorder child) : lower ∈ graph.preorder space := by
  rw [preorder_eq ascending]
  by_cases self : child = space
  · subst self
    rwa [preorder_eq ascending] at listed
  · apply List.mem_cons_of_mem
    exact List.mem_flatMap.mpr ⟨child, List.mem_filter.mpr ⟨born, by simpa using self⟩, listed⟩

/-- The preorder of a tree lists what is below its top. -/
theorem mem_preorder_iff {space lower : NamespaceRef} :
    lower ∈ graph.preorder space ↔ graph.Below space lower := by
  constructor
  · intro listed
    induction space using preorder.induct graph generalizing lower with
    | case1 space ih =>
      rw [preorder] at listed
      rcases List.mem_cons.mp listed with rfl | listed
      · exact .refl
      · obtain ⟨⟨child, kept⟩, -, listed⟩ := List.mem_flatMap.mp listed
        exact .head (List.mem_filter.mp kept).1 (ih child kept listed)
  · intro below
    induction below using Relation.ReflTransGen.head_induction_on with
    | refl =>
      rw [preorder_eq ascending]
      exact List.mem_cons_self
    | head born _ listed => exact mem_preorder_of_child ascending born listed

theorem index_le_of_below (below : graph.Below space lower) : space.index ≤ lower.index := by
  induction below with
  | refl => exact Nat.le_refl _
  | tail _ born older => exact Nat.le_trans older (ascending born)

/-! ### What has been seen completely -/

/-- Seeing a whole tree leaves complete what was complete. -/
theorem Complete.foldl_preorder {seen : OrderedSet .namespaces}
    (complete : graph.Complete seen space) (other : NamespaceRef) :
    graph.Complete ((graph.preorder other).foldl OrderedSet.insert seen) space := by
  intro upper lower reached held below
  rw [OrderedSet.contains_foldl_insert, mem_preorder_iff ascending] at held ⊢
  rcases held with inside | old
  · exact .inl (inside.trans below)
  · exact .inr (complete reached old below)

/-- Entering a namespace leaves complete what is below it, though not the namespace itself. -/
theorem Complete.enter {seen : OrderedSet .namespaces} (complete : graph.Complete seen space)
    (born : child ∈ graph.children space) (differs : child ≠ space) :
    graph.Complete (seen.insert space) child := by
  intro upper lower reached held below
  have younger := (younger_iff ascending born).mpr differs
  have older := index_le_of_below ascending reached
  rw [OrderedSet.contains_insert, Bool.or_eq_true, decide_eq_true_eq] at held ⊢
  rcases held with rfl | old
  · omega
  · exact .inr (complete (.head born reached) old below)

/-- Trees that follow each other are walked one by one. Of the pending namespaces `keep` leaves out
those that are known to have been seen. -/
theorem walks_inTurn (keep : NamespaceRef → Bool) {seen : OrderedSet .namespaces}
    {outcome : Except Error (OrderedSet .namespaces)}
    (known : ∀ next ∈ nexts, (graph.namespace? next).isSome = true)
    (left : ∀ next ∈ nexts, keep next = false → seen.contains next = true)
    (complete : ∀ next ∈ nexts, keep next = true → graph.Complete seen next)
    (tree : ∀ next ∈ nexts, keep next = true → ∀ {seen pending}, graph.Complete seen next →
      graph.Walks ((graph.preorder next).foldl OrderedSet.insert seen) pending outcome →
      graph.Walks seen (next :: pending) outcome)
    (after : graph.Walks (((nexts.filter keep).flatMap graph.preorder).foldl OrderedSet.insert seen)
      pending outcome) : graph.Walks seen (nexts ++ pending) outcome := by
  induction nexts generalizing seen with
  | nil => exact after
  | cons next rest ih =>
    rw [List.forall_mem_cons] at known left complete tree
    rw [List.cons_append]
    cases kept : keep next with
    | false =>
      rw [List.filter_cons_of_neg (by simp [kept])] at after
      exact .again known.1 (left.1 kept) (ih known.2 left.2 complete.2 tree.2 after)
    | true =>
      rw [List.filter_cons_of_pos kept, List.flatMap_cons, List.foldl_append] at after
      apply tree.1 kept (complete.1 kept)
      apply ih known.2 _ _ tree.2 after
      · intro other listed unkept
        rw [OrderedSet.contains_foldl_insert]
        exact .inr (left.2 other listed unkept)
      · intro other listed isKept
        exact (complete.2 other listed isKept).foldl_preorder ascending next

/-- A pending namespace is walked as its preorder, whatever of it has been seen. -/
theorem walks_preorder (linked : graph.Linked) {seen : OrderedSet .namespaces}
    (there : (graph.namespace? space).isSome = true) (complete : graph.Complete seen space)
    (after : graph.Walks ((graph.preorder space).foldl OrderedSet.insert seen) pending outcome) :
    graph.Walks seen (space :: pending) outcome := by
  induction space using preorder.induct graph generalizing seen pending with
  | case1 space ih =>
    cases old : seen.contains space with
    | true =>
      -- The traversal passes over it, and its whole tree adds nothing to what has been seen.
      have all : ∀ lower ∈ graph.preorder space, seen.contains lower = true :=
        fun lower listed => complete .refl old ((mem_preorder_iff ascending).mp listed)
      rw [OrderedSet.foldl_insert_of_contains all] at after
      exact .again there old after
    | false =>
      rw [preorder_eq ascending, List.foldl_cons] at after
      apply Walks.enter there old
      -- Of its children only itself, if it is one, is known to have been seen.
      apply walks_inTurn ascending _ _ _ _ _ after
      · exact fun child born => (linked.born born).1
      · intro child _ self
        obtain rfl : child = space := by simpa using self
        simp [OrderedSet.contains_insert]
      · exact fun child born differs => complete.enter ascending born (by simpa using differs)
      · intro child born differs seen pending complete after
        have younger := (younger_iff ascending born).mpr (by simpa using differs)
        exact ih child (List.mem_filter.mpr ⟨born, decide_eq_true younger⟩) (linked.born born).1
          complete after

/-- Known roots at the front are walked before anything else is seen. -/
theorem walks_roots (linked : graph.Linked)
    (known : ∀ root ∈ roots, (graph.namespace? root).isSome = true)
    (after : graph.Walks (.ofList (roots.flatMap graph.preorder)) pending outcome) :
    graph.Walks .empty (roots ++ pending) outcome := by
  apply walks_inTurn ascending (fun _ => true) known
  · exact fun _ _ never => by cases never
  · exact fun root _ _ => complete_empty root
  · exact fun root member _ _ _ => walks_preorder ascending linked (known root member)
  · rwa [List.filter_true]

theorem flatten_of_dangling (linked : graph.Linked)
    (missing : roots.find? (fun root => (graph.namespace? root).isNone) = some root) :
    graph.flatten roots = .error (.dangling (.root root)) := by
  obtain ⟨dangles, before, after, rfl, known⟩ := List.find?_eq_some_iff_append.mp missing
  have stops : graph.Walks (.ofList (before.flatMap graph.preorder)) (root :: after) _ :=
    .dangling (Option.isNone_iff_eq_none.mp dangles)
  exact (walks_roots ascending linked (by simpa using known) stops).flatten_eq

theorem flatten_eq_eraseDups (linked : graph.Linked)
    (known : ∀ root ∈ roots, (graph.namespace? root).isSome = true) :
    graph.flatten roots = .ok (roots.flatMap graph.preorder).eraseDups := by
  have ends := walks_roots ascending linked known (.done _)
  rw [List.append_nil] at ends
  rw [ends.flatten_eq, Except.map, OrderedSet.toList_ofList]

/-! ### The forest as a list -/

theorem mem_flatten_iff (linked : graph.Linked) (flattened : graph.flatten roots = .ok forest)
    (space : NamespaceRef) : space ∈ forest ↔ ∃ root ∈ roots, graph.Below root space := by
  have listed := flatten_eq_eraseDups ascending linked (roots_of_flatten flattened)
  cases flattened.symm.trans listed
  simp [mem_preorder_iff ascending]

theorem flatten_eq_error_iff (linked : graph.Linked) (cause : Error) :
    graph.flatten roots = .error cause ↔
      ∃ root, roots.find? (fun root => (graph.namespace? root).isNone) = some root ∧
        cause = .dangling (.root root) := by
  constructor
  · intro failed
    cases missing : roots.find? fun root => (graph.namespace? root).isNone with
    | some root =>
      cases (flatten_of_dangling ascending linked missing).symm.trans failed
      exact ⟨root, rfl, rfl⟩
    | none =>
      have known : ∀ root ∈ roots, (graph.namespace? root).isSome = true := by
        simpa [Option.isSome_iff_ne_none] using missing
      cases (flatten_eq_eraseDups ascending linked known).symm.trans failed
  · rintro ⟨root, missing, rfl⟩
    exact flatten_of_dangling ascending linked missing

end

/-- What `outcome` says of the roots if it lists their trees in preorder. -/
structure InPreorder (graph : Graph) (roots : List NamespaceRef)
    (outcome : Except Error (List NamespaceRef)) : Prop where
  /-- A traversal of the roots ends with it. -/
  ends : ∃ final, graph.Walks .empty roots final ∧ outcome = final.map OrderedSet.toList
  /-- It blames the first root that dangles, if there is one. -/
  blames : ∀ cause, outcome = .error cause ↔
    ∃ root, roots.find? (fun root => (graph.namespace? root).isNone) = some root ∧
      cause = .dangling (.root root)
  listed : (∀ root ∈ roots, (graph.namespace? root).isSome = true) →
    outcome = .ok (roots.flatMap graph.preorder).eraseDups
  once : ∀ forest, outcome = .ok forest → forest.Nodup
  reached : ∀ forest, outcome = .ok forest →
    ∀ space, space ∈ forest ↔ ∃ root ∈ roots, graph.Below root space

/-- **The forest is the preorder of its roots.** Whatever the history and the roots, the traversal
ends. It fails exactly if a root dangles, and names the first that does. Otherwise it gives the
trees of the roots in preorder, one after the other, without the repetitions; and a tree is its top
followed by the trees of the children, the top itself not among them. -/
theorem forest_is_in_preorder (steps : List BuildStep) (roots : List NamespaceRef) :
    (∀ space, (ofSteps steps).preorder space =
      space :: (((ofSteps steps).children space).filter (· ≠ space)).flatMap
        (ofSteps steps).preorder) ∧
    InPreorder (ofSteps steps) roots ((ofSteps steps).flatten roots) := by
  have linked := linked_ofSteps steps
  have ascending : ∀ {space child}, child ∈ (ofSteps steps).children space →
      space.index ≤ child.index := index_le_of_mem_children steps
  refine ⟨preorder_eq ascending, ?_⟩
  exact {
    ends := flatten_walks _ roots
    blames := flatten_eq_error_iff ascending linked
    listed := flatten_eq_eraseDups ascending linked
    once := fun _ => nodup_flatten
    reached := fun _ => mem_flatten_iff ascending linked }

/-- A tree that is met again inside another, a namespace that is its own parent, and a root given
twice. -/
example : (ofSteps [.space { name := "outer" }, .space { name := "inner", parent := some ⟨0⟩ },
    .space { name := "loop", parent := some ⟨2⟩ }, .space { name := "deep", parent := some ⟨1⟩ },
    .space { name := "last", parent := some ⟨0⟩ }]).flatten [⟨1⟩, ⟨0⟩, ⟨2⟩, ⟨1⟩] =
      .ok [⟨1⟩, ⟨3⟩, ⟨0⟩, ⟨4⟩, ⟨2⟩] := by decide +kernel

end NameAssignment.Graph
