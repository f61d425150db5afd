import NameAssignment.Proofs.Rounds

/-! What the order of building can lose. A link is written when its step is made, and never again:
an entity or a namespace that is added before the namespace it belongs to is linked to nothing, even
if that namespace is added later and the graph is accepted. Nothing is lost exactly if every home
and every parent is there before what it holds. Dependencies may point ahead. -/
namespace NameAssignment.BuildOrder

/-- Where a step links what it adds: the home of an entity, the parent of a namespace. -/
def linksTo : BuildStep → Option NamespaceRef
  | .space request => request.parent
  | .fixed home _ => some home
  | .simple home _ _ => some home
  | .dependent home _ _ _ _ => some home
  | .function _ => none
  | .keywords _ _ => none

/-- A step that links to nothing, or to a namespace that is there. -/
def Timely (graph : Graph) (step : BuildStep) : Prop :=
  ∀ target, linksTo step = some target → (graph.namespace? target).isSome = true

/-- Every step is timely when it is made. -/
def InOrder : Graph → List BuildStep → Prop
  | _, [] => True
  | graph, step :: rest => Timely graph step ∧ InOrder (graph.build step) rest

instance (graph : Graph) (step : BuildStep) : Decidable (Timely graph step) :=
  decidable_of_iff ((linksTo step).all fun target => (graph.namespace? target).isSome) (by
    cases linked : linksTo step <;> simp [Timely, linked])

instance decidableInOrder : (graph : Graph) → (steps : List BuildStep) →
    Decidable (InOrder graph steps)
  | _, [] => .isTrue trivial
  | graph, step :: rest =>
    have := decidableInOrder (graph.build step) rest
    inferInstanceAs (Decidable (Timely graph step ∧ InOrder (graph.build step) rest))

variable {graph : Graph}

/-! ### What a step does to the links -/

/-- Reserved words are at home in the namespace that is made for them. -/
theorem anchored_addKeywords_iff (linked : graph.Linked) (name : String) (words : List String) :
    (graph.addKeywords name words).Anchored ↔ graph.Anchored := by
  unfold Graph.addKeywords
  have there : ((graph.addNamespace { name }).namespace? graph.nextNamespace).isSome = true := by
    rw [Graph.namespace?_isSome_iff, Graph.size_namespaces_addNamespace]
    exact Nat.lt_succ_self _
  generalize graph.nextNamespace = home at there ⊢
  have grown (start : Graph) (linked : start.Linked)
      (there : (start.namespace? home).isSome = true) :
      (words.foldl (·.addFixed home ·) start).Anchored ↔ start.Anchored := by
    induction words generalizing start with
    | nil => exact Iff.rfl
    | cons word rest ih =>
      have stays : ((start.addFixed home word).namespace? home).isSome = true := by
        rw [Graph.namespace?_isSome_iff] at there ⊢
        simpa [Graph.addFixed] using there
      exact (ih _ (linked.addEntity _) stays).trans
        ((Graph.anchored_addEntity_iff linked _).trans (and_iff_left there))
  rw [grown _ (linked.addNamespace _) there, Graph.anchored_addNamespace_iff]
  exact and_iff_left fun parent given => by cases given

/-- A step leaves all links in place if they were in place and it is timely, and not otherwise. -/
theorem anchored_build_iff (linked : graph.Linked) (step : BuildStep) :
    (graph.build step).Anchored ↔ graph.Anchored ∧ Timely graph step := by
  cases step with
  | function function =>
    exact (Graph.anchored_addFunction_iff function).trans
      (and_iff_left fun target given => by cases given).symm
  | space request => exact Graph.anchored_addNamespace_iff request
  | keywords name words =>
    exact (anchored_addKeywords_iff linked name words).trans
      (and_iff_left fun target given => by cases given).symm
  | fixed home name =>
    exact (Graph.anchored_addEntity_iff linked _).trans (by simp [Timely, linksTo])
  | simple home function proposed =>
    exact (Graph.anchored_addEntity_iff linked _).trans (by simp [Timely, linksTo])
  | dependent home function name dependencies combine =>
    exact (Graph.anchored_addEntity_iff linked _).trans (by simp [Timely, linksTo])

/-- All links of a graph are in place exactly if its history is in order. -/
theorem anchored_ofSteps_iff (steps : List BuildStep) :
    (Graph.ofSteps steps).Anchored ↔ InOrder .empty steps := by
  have grown (start : Graph) (linked : start.Linked) :
      (steps.foldl Graph.build start).Anchored ↔ start.Anchored ∧ InOrder start steps := by
    induction steps generalizing start with
    | nil => simp [InOrder]
    | cons step rest ih =>
      rw [List.foldl_cons, ih _ (linked.build step), anchored_build_iff linked step, InOrder,
        and_assoc]
  exact (grown .empty Graph.linked_empty).trans (and_iff_right Graph.anchored_empty)

/-! ### What the links give -/

/-- The forest below the roots lists every namespace once, and its home lists every entity once. -/
structure NothingLost (graph : Graph) : Prop where
  spaces : ∃ forest, graph.flatten graph.roots = .ok forest ∧
    ∀ space, (graph.namespace? space).isSome = true → forest.count space = 1
  entities : ∀ handle entity, graph.entity? handle = some entity →
    (graph.members entity.home).count handle = 1

theorem roots_known (graph : Graph) :
    ∀ root ∈ graph.roots, (graph.namespace? root).isSome = true :=
  fun _ listed => (Graph.mem_roots_iff.mp listed).1

theorem NothingLost.of_anchored (linked : graph.Linked) (anchored : graph.Anchored) :
    NothingLost graph := by
  obtain ⟨forest, flattened, -⟩ := Graph.flatten_of_known linked (roots_known graph)
  refine ⟨⟨forest, flattened, ?_⟩, ?_⟩
  · intro space there
    apply List.count_eq_one_of_mem (Graph.nodup_flatten flattened)
    exact Graph.mem_forest_of_anchored linked anchored (roots_known graph) flattened
      (fun there parentless => Graph.mem_roots_iff.mpr ⟨there, parentless⟩) there
  · intro handle entity found
    exact List.count_eq_one_of_mem (linked.memberOnce _) (anchored.housed found)

theorem NothingLost.housed (whole : NothingLost graph)
    (found : graph.entity? handle = some entity) : handle ∈ graph.members entity.home := by
  apply List.count_pos_iff.mp
  rw [whole.entities handle entity found]
  exact Nat.one_pos

theorem NothingLost.reached (whole : NothingLost graph)
    (flattened : graph.flatten graph.roots = .ok forest)
    (there : (graph.namespace? space).isSome = true) : space ∈ forest := by
  obtain ⟨same, again, once⟩ := whole.spaces
  obtain rfl : forest = same := Except.ok.inj (flattened.symm.trans again)
  apply List.count_pos_iff.mp
  rw [once space there]
  exact Nat.one_pos

/-- A namespace with a parent is reached through the children of its parent, or not at all. -/
theorem NothingLost.anchored (linked : graph.Linked)
    (ascending : ∀ {space child}, child ∈ graph.children space → space.index ≤ child.index)
    (whole : NothingLost graph) : graph.Anchored := by
  refine ⟨whole.housed, ?_⟩
  intro child space born
  obtain ⟨forest, flattened, -⟩ := whole.spaces
  have reached : child ∈ forest := whole.reached flattened (Graph.namespace?_of_parent? born)
  have linkedUp : child ∈ graph.children space ∧ child ≠ space := by
    by_contra loose
    -- then whatever has `child` for a child is `child` itself, so the forest goes round it
    apply Graph.forest_induction (· ≠ child) linked (roots_known graph) flattened _ _ reached rfl
    · rintro root listed rfl
      have parentless := (Graph.mem_roots_iff.mp listed).2
      rw [born] at parentless
      cases parentless
    · rintro handle other differ listed rfl
      have parent := (linked.born listed).2
      rw [born] at parent
      obtain rfl : space = handle := Option.some.inj parent
      exact loose ⟨listed, differ.symm⟩
  have older := ascending linkedUp.1
  have apart : space.index ≠ child.index :=
    fun same => linkedUp.2 (Handle.ext_index same).symm
  exact ⟨by omega, linkedUp.1⟩

/-- Where nothing is lost, a resolution from all roots names an entity or lists it as left over. -/
theorem named_or_left (linked : graph.Linked) (whole : NothingLost graph)
    (ran : (graph.resolve guarded graph.roots).result = .ok resolution)
    (found : graph.entity? handle = some entity) :
    resolution.names.contains handle = true ∨ handle ∈ resolution.unresolved := by
  obtain ⟨forest, fixed, final, course⟩ := Graph.resolve_course linked ran
  have member := whole.housed found
  obtain ⟨space, there, -⟩ := Graph.namespace?_of_member member
  have listed := whole.reached course.flattened (Option.isSome_of_eq_some there)
  rw [course.names, course.unresolved, Graph.unnamed]
  cases named : final.names.contains handle with
  | true => exact .inl rfl
  | false =>
    have placed : handle ∈ forest.flatMap graph.members :=
      List.mem_flatMap.mpr ⟨entity.home, listed, member⟩
    exact .inr (List.mem_filter.mpr ⟨placed, by simp [named]⟩)

/-- **Nothing is lost exactly if the history is in order.** Then every resolution from all roots
that succeeds names each entity of the graph, or lists it as left over. -/
theorem nothing_is_lost_iff_in_order (steps : List BuildStep) :
    (NothingLost (Graph.ofSteps steps) ↔ InOrder .empty steps) ∧
    (InOrder .empty steps → ∀ guarded resolution,
      ((Graph.ofSteps steps).resolve guarded (Graph.ofSteps steps).roots).result = .ok resolution →
      ∀ handle entity, (Graph.ofSteps steps).entity? handle = some entity →
        resolution.names.contains handle = true ∨ handle ∈ resolution.unresolved) := by
  have linked := Graph.linked_ofSteps steps
  have whole (ordered : InOrder .empty steps) : NothingLost (Graph.ofSteps steps) :=
    .of_anchored linked ((anchored_ofSteps_iff steps).mpr ordered)
  constructor
  · constructor
    · intro whole
      exact (anchored_ofSteps_iff steps).mp
        (whole.anchored linked (Graph.index_le_of_mem_children steps))
    · exact whole
  · intro ordered guarded resolution ran handle entity found
    exact named_or_left linked (whole ordered) ran found

/-- A namespace within another, with a member whose dependency is added after it. -/
def forwards : List BuildStep := [
  .function (Counting.names '_'),
  .space { name := "types" },
  .space { name := "inner", parent := some ⟨0⟩ },
  .dependent ⟨1⟩ ⟨0⟩ "join" [⟨1⟩] String.join,
  .fixed ⟨0⟩ "main"]

/-- A dependency that points ahead loses nothing. -/
theorem forward_dependency_is_kept :
    NothingLost (Graph.ofSteps forwards) ∧
      ∃ resolution,
        ((Graph.ofSteps forwards).resolve true (Graph.ofSteps forwards).roots).result =
          .ok resolution ∧
        (resolution.names.contains ⟨0⟩ = true ∨ ⟨0⟩ ∈ resolution.unresolved) := by
  have ordered : InOrder .empty forwards := by decide +kernel
  have kept := nothing_is_lost_iff_in_order forwards
  refine ⟨kept.1.mpr ordered, _, rfl, ?_⟩
  exact kept.2 ordered true _ rfl ⟨0⟩ _ rfl

/-- An entity added before its home, and a namespace that is its own parent. -/
def premature : List BuildStep := [
  .fixed ⟨0⟩ "main",
  .space { name := "types" },
  .space { name := "inner", parent := some ⟨1⟩ }]

/-- The graph is accepted. The entity is listed nowhere, a resolution neither names it nor leaves it
over, and the namespace is not below the roots. -/
theorem premature_entity_is_lost :
    (Graph.ofSteps premature).validate = .ok () ∧
      ((Graph.ofSteps premature).entity? ⟨0⟩).isSome = true ∧
      (Graph.ofSteps premature).members ⟨0⟩ = [] ∧
      ((Graph.ofSteps premature).namespace? ⟨1⟩).isSome = true ∧
      (Graph.ofSteps premature).flatten (Graph.ofSteps premature).roots = .ok [⟨0⟩] ∧
      ∃ resolution,
        ((Graph.ofSteps premature).resolve true (Graph.ofSteps premature).roots).result =
          .ok resolution ∧
        resolution.names.contains ⟨0⟩ = false ∧ resolution.unresolved = [] :=
  ⟨by decide +kernel, by decide, by decide, by decide, by decide +kernel, _, rfl, rfl, rfl⟩

end NameAssignment.BuildOrder
