import NameAssignment.Graph.Forest
import NameAssignment.Proofs.Links

/-! The traversal of the forest ends by itself: its fuel is never what stops it. So the list it
gives holds the roots and the children of everything it holds, each namespace once. -/
namespace NameAssignment.Graph

variable {graph : Graph}

/-! ### Enough fuel -/

/-- The handles of all namespaces. -/
def handles (graph : Graph) : List NamespaceRef :=
  (List.range graph.namespaces.size).map Handle.mk

theorem mem_handles {handle : NamespaceRef} :
    handle ∈ graph.handles ↔ (graph.namespace? handle).isSome = true := by
  rw [namespace?_isSome_iff, handles, Handle.mem_map_range]

theorem nodup_handles : graph.handles.Nodup := Handle.nodup_map_range _

/-- How many children the namespaces not yet seen have between them. Each of them may still have to
be visited, beside what is pending. -/
def outstanding (graph : Graph) (seen : OrderedSet .namespaces) : Nat :=
  (graph.handles.filter fun handle => !seen.contains handle).foldr
    (fun handle total => (graph.children handle).length + total) 0

/-- Seeing a namespace moves its children from what is outstanding to what is pending. -/
theorem outstanding_insert {seen : OrderedSet .namespaces}
    (there : (graph.namespace? handle).isSome = true) (new : seen.contains handle = false) :
    graph.outstanding seen =
      (graph.children handle).length + graph.outstanding (seen.insert handle) := by
  have unseen : handle ∈ graph.handles.filter fun other => !seen.contains other :=
    List.mem_filter.mpr ⟨mem_handles.mpr there, by simp [new]⟩
  have rest : (graph.handles.filter fun other => !(seen.insert handle).contains other) =
      (graph.handles.filter fun other => !seen.contains other).erase handle := by
    rw [(nodup_handles.filter _).erase_eq_filter, List.filter_filter]
    apply List.filter_congr
    intro other _
    rw [OrderedSet.contains_insert]
    grind
  have order (first second : NamespaceRef) (total : Nat) :
      (graph.children second).length + ((graph.children first).length + total) =
        (graph.children first).length + ((graph.children second).length + total) := by omega
  have split := (List.perm_cons_erase unseen).foldr_eq'
    (fun first _ second _ => order first second) 0
  rw [outstanding, outstanding, rest, split, List.foldr_cons]

/-- At the start every child of every namespace is outstanding. -/
theorem visits_eq (roots : List NamespaceRef) :
    graph.visits roots = roots.length + graph.outstanding .empty + 1 := by
  have all : (graph.handles.map fun handle => (graph.children handle).length) =
      graph.namespaces.toList.map fun space => space.children.length := by
    apply List.ext_getElem
    · simp [handles]
    · intro index first second
      have below : index < graph.namespaces.size := by simpa using second
      simp [handles, children, namespace?, below]
  have total : graph.outstanding .empty =
      graph.namespaces.toList.foldr (fun space total => space.children.length + total) 0 := by
    have read := congrArg (List.foldr (· + ·) 0) all
    rw [List.foldr_map, List.foldr_map] at read
    simpa [outstanding] using read
  rw [total, visits]

/-! ### The steps of a traversal -/

/-- A traversal as the steps it takes, with no bound on them: from what has been seen and what is
pending to what it ends with. -/
inductive Walks (graph : Graph) : OrderedSet .namespaces → List NamespaceRef →
    Except Error (OrderedSet .namespaces) → Prop
  | done (seen : OrderedSet .namespaces) : Walks graph seen [] (.ok seen)
  | dangling {seen : OrderedSet .namespaces} {handle : NamespaceRef} {pending : List NamespaceRef} :
    graph.namespace? handle = none →
      Walks graph seen (handle :: pending) (.error (.dangling (.root handle)))
  /-- A namespace that is met again is passed over. -/
  | again {seen : OrderedSet .namespaces} {handle : NamespaceRef} {pending : List NamespaceRef}
    {outcome : Except Error (OrderedSet .namespaces)} :
    (graph.namespace? handle).isSome = true → seen.contains handle = true →
      Walks graph seen pending outcome → Walks graph seen (handle :: pending) outcome
  /-- The children of a new namespace come before what else is pending. -/
  | enter {seen : OrderedSet .namespaces} {handle : NamespaceRef} {pending : List NamespaceRef}
    {outcome : Except Error (OrderedSet .namespaces)} :
    (graph.namespace? handle).isSome = true → seen.contains handle = false →
      Walks graph (seen.insert handle) (graph.children handle ++ pending) outcome →
      Walks graph seen (handle :: pending) outcome

/-- With enough fuel a traversal ends by itself. -/
theorem walks_visit {seen : OrderedSet .namespaces}
    (enough : pending.length + graph.outstanding seen < fuel) :
    Walks graph seen pending (graph.visit fuel seen pending) := by
  induction fuel generalizing seen pending with
  | zero => omega
  | succ fuel ih =>
    cases pending with
    | nil => exact .done seen
    | cons handle pending =>
      rw [List.length_cons] at enough
      cases found : graph.namespace? handle with
      | none =>
        simp only [visit, found]
        exact .dangling found
      | some space =>
        have here := Option.isSome_of_eq_some found
        have listed : space.children = graph.children handle := by simp [children, found]
        simp only [visit, found, listed]
        cases old : seen.contains handle with
        | true => exact .again here old (ih (by omega))
        | false =>
          have moved := outstanding_insert here old
          exact .enter here old (ih (by rw [List.length_append]; omega))

/-- A traversal ends in one way only. -/
theorem Walks.unique {seen : OrderedSet .namespaces} (walks : Walks graph seen pending outcome)
    (other : Walks graph seen pending final) : outcome = final := by
  induction walks with
  | done =>
    cases other
    rfl
  | dangling missing => cases other with
    | dangling => rfl
    | again here | enter here => simp [missing] at here
  | again here old _ ih => cases other with
    | dangling missing => simp [missing] at here
    | again _ _ rest => exact ih rest
    | enter _ new => simp [old] at new
  | enter here new _ ih => cases other with
    | dangling missing => simp [missing] at here
    | again _ old => simp [new] at old
    | enter _ _ rest => exact ih rest

theorem Walks.lawful {seen : OrderedSet .namespaces} (walks : Walks graph seen pending (.ok found))
    (lawful : seen.Lawful) : found.Lawful := by
  generalize ends : Except.ok found = outcome at walks
  induction walks with
  | done =>
    cases ends
    exact lawful
  | dangling => cases ends
  | again _ _ _ ih => exact ih lawful ends
  | enter _ _ _ ih => exact ih (OrderedSet.lawful_insert lawful _) ends

/-- A traversal of known namespaces meets no other: children are known. -/
theorem Walks.succeeds {seen : OrderedSet .namespaces} (linked : graph.Linked)
    (walks : Walks graph seen pending outcome)
    (known : ∀ handle ∈ pending, (graph.namespace? handle).isSome = true) :
    ∃ found, outcome = .ok found := by
  induction walks with
  | done seen => exact ⟨seen, rfl⟩
  | dangling missing => simpa [missing] using known _ List.mem_cons_self
  | again _ _ _ ih => exact ih fun other later => known other (List.mem_cons_of_mem _ later)
  | enter _ _ _ ih =>
    apply ih
    intro other member
    rcases List.mem_append.mp member with child | later
    · exact (linked.born child).1
    · exact known other (List.mem_cons_of_mem _ later)

/-- A traversal that succeeds met only known namespaces. -/
theorem Walks.known {seen : OrderedSet .namespaces}
    (walks : Walks graph seen pending (.ok found)) :
    ∀ handle ∈ pending, (graph.namespace? handle).isSome = true := by
  generalize ends : Except.ok found = outcome at walks
  induction walks with
  | done => simp
  | dangling => cases ends
  | again here _ _ ih => exact List.forall_mem_cons.mpr ⟨here, ih ends⟩
  | enter here _ _ ih =>
    exact List.forall_mem_cons.mpr
      ⟨here, fun other later => ih ends other (List.mem_append_right _ later)⟩

/-- A traversal that fails blames a namespace that is not there. -/
theorem Walks.blames {seen : OrderedSet .namespaces}
    (walks : Walks graph seen pending (.error cause)) :
    ∃ handle, cause = .dangling (.root handle) := by
  generalize ends : Except.error cause = outcome at walks
  induction walks with
  | done => cases ends
  | dangling =>
    cases ends
    exact ⟨_, rfl⟩
  | again _ _ _ ih => exact ih ends
  | enter _ _ _ ih => exact ih ends

/-! ### What a traversal finds -/

/-- What holds between the namespaces seen before a traversal and those seen after it. -/
structure Explored (graph : Graph) (seen : OrderedSet .namespaces) (pending : List NamespaceRef)
    (found : OrderedSet .namespaces) : Prop where
  kept : ∀ {handle}, seen.contains handle = true → found.contains handle = true
  met : ∀ {handle}, handle ∈ pending → found.contains handle = true
  /-- Whatever was seen on the way has its children seen as well. -/
  closed : ∀ {handle}, found.contains handle = true → seen.contains handle = true ∨
    ∀ child ∈ graph.children handle, found.contains child = true
  /-- Nothing is seen that is not below something pending. -/
  below : ∀ {Inside : NamespaceRef → Prop}, (∀ handle ∈ pending, Inside handle) →
    (∀ handle child, Inside handle → child ∈ graph.children handle → Inside child) →
    ∀ {handle}, found.contains handle = true → seen.contains handle = true ∨ Inside handle

theorem explored_nil (seen : OrderedSet .namespaces) : Explored graph seen [] seen where
  kept held := held
  met member := by cases member
  closed held := .inl held
  below _ _ := .inl

/-- A namespace that is met again adds nothing. -/
theorem Explored.again {seen : OrderedSet .namespaces} (known : seen.contains handle = true)
    (explored : Explored graph seen pending found) :
    Explored graph seen (handle :: pending) found where
  kept := explored.kept
  met member := by
    rcases List.mem_cons.mp member with rfl | later
    · exact explored.kept known
    · exact explored.met later
  closed := explored.closed
  below inside := explored.below fun other later => inside other (List.mem_cons_of_mem _ later)

/-- A new namespace is seen first, and its children come before what else is pending. -/
theorem Explored.enter {seen : OrderedSet .namespaces}
    (explored : Explored graph (seen.insert handle) (graph.children handle ++ pending) found) :
    Explored graph seen (handle :: pending) found where
  kept held := explored.kept (by simp [OrderedSet.contains_insert, held])
  met member := by
    rcases List.mem_cons.mp member with rfl | later
    · exact explored.kept (by simp [OrderedSet.contains_insert])
    · exact explored.met (List.mem_append_right _ later)
  closed {other} held := by
    rcases explored.closed held with earlier | below
    · rw [OrderedSet.contains_insert, Bool.or_eq_true, decide_eq_true_eq] at earlier
      rcases earlier with rfl | earlier
      · exact .inr fun child member => explored.met (List.mem_append_left _ member)
      · exact .inl earlier
    · exact .inr below
  below {Inside} inside step {other} held := by
    have here : Inside handle := inside handle List.mem_cons_self
    have start : ∀ next ∈ graph.children handle ++ pending, Inside next := by
      intro next member
      rcases List.mem_append.mp member with child | later
      · exact step handle next here child
      · exact inside next (List.mem_cons_of_mem _ later)
    rcases explored.below start step held with earlier | below
    · rw [OrderedSet.contains_insert, Bool.or_eq_true, decide_eq_true_eq] at earlier
      rcases earlier with rfl | earlier
      · exact .inr here
      · exact .inl earlier
    · exact .inr below

/-- A traversal that succeeds is exhaustive. -/
theorem Walks.explores {seen : OrderedSet .namespaces}
    (walks : Walks graph seen pending (.ok found)) : Explored graph seen pending found := by
  generalize ends : Except.ok found = outcome at walks
  induction walks with
  | done seen =>
    cases ends
    exact explored_nil _
  | dangling => cases ends
  | again _ old _ ih => exact (ih ends).again old
  | enter _ _ _ ih => exact (ih ends).enter

/-! ### The forest -/

variable {roots forest : List NamespaceRef}

/-- The forest is what the traversal of the roots ends with. -/
theorem flatten_walks (graph : Graph) (roots : List NamespaceRef) :
    ∃ outcome, Walks graph .empty roots outcome ∧
      graph.flatten roots = outcome.map OrderedSet.toList :=
  ⟨_, walks_visit (by rw [visits_eq]; omega), rfl⟩

theorem Walks.flatten_eq (walks : Walks graph .empty roots outcome) :
    graph.flatten roots = outcome.map OrderedSet.toList := by
  obtain ⟨same, again, flattened⟩ := flatten_walks graph roots
  rw [flattened, walks.unique again]

/-- A traversal reads which namespaces are there and what their children are, and nothing else. -/
theorem Walks.congr {seen : OrderedSet .namespaces} {other : Graph}
    (same : ∀ handle, (other.namespace? handle).map (·.children) =
      (graph.namespace? handle).map (·.children))
    (walks : Walks graph seen pending outcome) : Walks other seen pending outcome := by
  have there (handle : NamespaceRef) :
      (other.namespace? handle).isSome = (graph.namespace? handle).isSome := by
    simpa using congrArg Option.isSome (same handle)
  have listed (handle : NamespaceRef) : other.children handle = graph.children handle := by
    rw [children, children, same]
  induction walks with
  | done seen => exact .done seen
  | @dangling _ handle _ missing =>
    apply Walks.dangling
    rw [← Option.isNone_iff_eq_none, ← Option.not_isSome, there, missing]
    rfl
  | again here old _ ih => exact .again ((there _).trans here) old ih
  | enter here new _ ih => exact .enter ((there _).trans here) new ((listed _).symm ▸ ih)

theorem flatten_congr {other : Graph}
    (same : ∀ handle, (other.namespace? handle).map (·.children) =
      (graph.namespace? handle).map (·.children)) (roots : List NamespaceRef) :
    other.flatten roots = graph.flatten roots := by
  obtain ⟨outcome, walks, flattened⟩ := flatten_walks graph roots
  rw [flattened, (walks.congr same).flatten_eq]

/-- If there is a forest, the roots are known. -/
theorem roots_of_flatten (flattened : graph.flatten roots = .ok forest) :
    ∀ root ∈ roots, (graph.namespace? root).isSome = true := by
  obtain ⟨outcome, walks, ran⟩ := flatten_walks graph roots
  cases outcome with
  | error cause => cases ran.symm.trans flattened
  | ok found => exact walks.known

/-- If there is none, a root is to blame. -/
theorem blames_of_flatten (failed : graph.flatten roots = .error cause) :
    ∃ root, cause = .dangling (.root root) := by
  obtain ⟨outcome, walks, ran⟩ := flatten_walks graph roots
  cases outcome with
  | error cause =>
    cases ran.symm.trans failed
    exact walks.blames
  | ok found => cases ran.symm.trans failed

/-- The forest lists a namespace once, whatever the roots. -/
theorem nodup_flatten (flattened : graph.flatten roots = .ok forest) : forest.Nodup := by
  obtain ⟨outcome, walks, ran⟩ := flatten_walks graph roots
  cases outcome with
  | error cause => cases ran.symm.trans flattened
  | ok found =>
    cases ran.symm.trans flattened
    exact (walks.lawful OrderedSet.lawful_empty).once

/-- A traversal from known roots ends, with all that is below them. -/
theorem flatten_explores (linked : graph.Linked)
    (known : ∀ root ∈ roots, (graph.namespace? root).isSome = true) :
    ∃ found, graph.flatten roots = .ok found.toList ∧ found.Lawful ∧
      Explored graph .empty roots found := by
  obtain ⟨outcome, walks, flattened⟩ := flatten_walks graph roots
  obtain ⟨found, rfl⟩ := walks.succeeds linked known
  exact ⟨found, flattened, walks.lawful OrderedSet.lawful_empty, walks.explores⟩

theorem not_contains_empty (space : NamespaceRef) :
    ¬ (OrderedSet.empty : OrderedSet .namespaces).contains space = true := by
  simp

/-- What holds of the roots and passes to children holds throughout the forest. -/
theorem forest_induction (Inside : NamespaceRef → Prop) (linked : graph.Linked)
    (known : ∀ root ∈ roots, (graph.namespace? root).isSome = true)
    (flattened : graph.flatten roots = .ok forest)
    (rooted : ∀ root ∈ roots, Inside root)
    (step : ∀ handle child, Inside handle → child ∈ graph.children handle → Inside child)
    (listed : space ∈ forest) : Inside space := by
  obtain ⟨found, again, lawful, explored⟩ := flatten_explores linked known
  obtain rfl : forest = found.toList := Except.ok.inj (flattened.symm.trans again)
  have held := (lawful.listed space).mp listed
  exact (explored.below rooted step held).resolve_left (not_contains_empty space)

/-- Known roots have a forest: it holds them and all that is below them, and nothing else. -/
theorem flatten_of_known (linked : graph.Linked)
    (known : ∀ root ∈ roots, (graph.namespace? root).isSome = true) :
    ∃ forest, graph.flatten roots = .ok forest ∧ (∀ root ∈ roots, root ∈ forest) ∧
      (∀ space ∈ forest, ∀ child ∈ graph.children space, child ∈ forest) ∧
      ∀ space ∈ forest, (graph.namespace? space).isSome = true := by
  obtain ⟨found, flattened, lawful, explored⟩ := flatten_explores linked known
  refine ⟨found.toList, flattened, ?_, ?_, ?_⟩
  · intro root member
    exact (lawful.listed root).2 (explored.met member)
  · intro space member child born
    have held := (lawful.listed space).1 member
    exact (lawful.listed child).2
      ((explored.closed held).resolve_left (not_contains_empty space) child born)
  · intro space member
    apply forest_induction (fun space => (graph.namespace? space).isSome = true) linked known
      flattened known _ member
    intro handle child _ born
    exact (linked.born born).1

/-- Only known namespaces are listed. -/
theorem known_of_flatten (linked : graph.Linked) (flattened : graph.flatten roots = .ok forest) :
    ∀ space ∈ forest, (graph.namespace? space).isSome = true := by
  obtain ⟨same, again, -, -, known⟩ := flatten_of_known linked (roots_of_flatten flattened)
  obtain rfl : forest = same := Except.ok.inj (flattened.symm.trans again)
  exact known

/-- **All of an anchored graph is below its roots**, if every namespace without a parent is one of
them. The induction is on the order of creation. -/
theorem mem_forest_of_anchored (linked : graph.Linked) (anchored : graph.Anchored)
    (known : ∀ root ∈ roots, (graph.namespace? root).isSome = true)
    (flattened : graph.flatten roots = .ok forest)
    (rooted : ∀ {handle}, (graph.namespace? handle).isSome = true → graph.parent? handle = none →
      handle ∈ roots)
    (there : (graph.namespace? space).isSome = true) : space ∈ forest := by
  obtain ⟨same, again, listed, closed, -⟩ := flatten_of_known linked known
  obtain rfl : forest = same := Except.ok.inj (flattened.symm.trans again)
  induction index : space.index using Nat.strongRecOn generalizing space with
  | _ index ih =>
    subst index
    cases born : graph.parent? space with
    | none => exact listed space (rooted there born)
    | some parent =>
      obtain ⟨earlier, child⟩ := anchored.descends born
      have below := namespace?_isSome_iff.mp there
      have parentThere : (graph.namespace? parent).isSome = true := by
        apply namespace?_isSome_iff.mpr
        omega
      exact closed parent (ih parent.index earlier parentThere rfl) space child

end NameAssignment.Graph
