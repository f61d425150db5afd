import Mathlib.Data.List.Nodup
import NameAssignment.Graph.History
import NameAssignment.Proofs.Handles

/-! Links that every graph keeps, whatever handles its builder was given. A namespace lists as
members only entities that name it as their home, and as children only namespaces that name it as
their parent, each of them once. The converse holds of a graph that is anchored, and fails for an
entity whose home came later. -/
namespace NameAssignment.Graph

variable {graph : Graph}

/-- The child namespaces of a namespace; none if it is not there. -/
def children (graph : Graph) (handle : NamespaceRef) : List NamespaceRef :=
  ((graph.namespace? handle).map (·.children)).getD []

/-- The parent of a namespace, if it is there and has one. -/
def parent? (graph : Graph) (handle : NamespaceRef) : Option NamespaceRef :=
  (graph.namespace? handle).bind (·.parent)

structure Linked (graph : Graph) : Prop where
  /-- A member is an entity whose home lists it. -/
  housed : ∀ {space member}, member ∈ graph.members space →
    ∃ entity, graph.entity? member = some entity ∧ entity.home = space
  memberOnce : ∀ space, (graph.members space).Nodup
  /-- A child is a namespace whose parent lists it. -/
  born : ∀ {space child}, child ∈ graph.children space →
    (graph.namespace? child).isSome = true ∧ graph.parent? child = some space
  childOnce : ∀ space, (graph.children space).Nodup
  lawful : ∀ {handle space}, graph.namespace? handle = some space → space.forbidden.Lawful

/-! ### What a building step changes -/

theorem namespace?_isSome_iff {handle : NamespaceRef} :
    (graph.namespace? handle).isSome = true ↔ handle.index < graph.namespaces.size := by
  simp [namespace?]

theorem entity?_isSome_iff {handle : EntityRef} :
    (graph.entity? handle).isSome = true ↔ handle.index < graph.entities.size := by
  simp [entity?]

theorem function?_isSome_iff {handle : FunctionRef} :
    (graph.function? handle).isSome = true ↔ handle.index < graph.functions.size := by
  simp [function?]

theorem namespace?_nextNamespace : graph.namespace? graph.nextNamespace = none := by
  simp [namespace?, nextNamespace]

theorem entity?_nextEntity : graph.entity? graph.nextEntity = none := by
  simp [entity?, nextEntity]

theorem ne_nextNamespace (there : (graph.namespace? handle).isSome = true) :
    handle ≠ graph.nextNamespace := by
  rintro rfl
  rw [namespace?_nextNamespace] at there
  cases there

theorem ne_nextEntity (found : graph.entity? handle = some entity) :
    handle ≠ graph.nextEntity := by
  rintro rfl
  rw [entity?_nextEntity] at found
  cases found

theorem namespace?_of_parent? {child : NamespaceRef} (born : graph.parent? child = some space) :
    (graph.namespace? child).isSome = true := by
  cases found : graph.namespace? child with
  | none => simp [parent?, found] at born
  | some record => rfl

theorem namespace?_of_member {space : NamespaceRef} (member : entity ∈ graph.members space) :
    ∃ found, graph.namespace? space = some found ∧ entity ∈ found.members := by
  cases found : graph.namespace? space with
  | none => simp [members, found] at member
  | some space => exact ⟨space, rfl, by simpa [members, found] using member⟩

theorem namespace?_of_child {space : NamespaceRef} (child : other ∈ graph.children space) :
    (graph.namespace? space).isSome = true := by
  cases found : graph.namespace? space with
  | none => simp [children, found] at child
  | some record => rfl

theorem entity?_addEntity (entity : Entity) (handle : EntityRef) :
    (graph.addEntity entity).entity? handle =
      if handle = graph.nextEntity then some entity else graph.entity? handle := by
  have same : handle = graph.nextEntity ↔ handle.index = graph.entities.size :=
    ⟨fun equal => equal ▸ rfl, fun equal => Handle.ext_index equal⟩
  simp only [entity?, addEntity, Array.getElem?_push, same]

theorem namespace?_addEntity (entity : Entity) (handle : NamespaceRef) :
    (graph.addEntity entity).namespace? handle =
      if handle = entity.home then
        (graph.namespace? handle).map (·.addMember graph.nextEntity)
      else graph.namespace? handle := by
  have same : entity.home.index = handle.index ↔ handle = entity.home :=
    ⟨fun equal => (Handle.ext_index equal).symm, fun equal => equal ▸ rfl⟩
  simp only [namespace?, addEntity, Array.getElem?_modify, same]

/-- The new entity becomes the last member of its home, if its home is there. -/
theorem members_addEntity (entity : Entity) (handle : NamespaceRef) :
    (graph.addEntity entity).members handle = graph.members handle ++
      if handle = entity.home ∧ (graph.namespace? handle).isSome = true then [graph.nextEntity]
      else [] := by
  simp only [members, namespace?_addEntity]
  by_cases home : handle = entity.home
  · cases found : graph.namespace? handle with
    | none => simp [home]
    | some space => simp [home, Namespace.addMember]
  · simp [home]

theorem mem_members_addEntity_iff {entity : Entity} {space : NamespaceRef} :
    handle ∈ (graph.addEntity entity).members space ↔ handle ∈ graph.members space ∨
      handle = graph.nextEntity ∧ space = entity.home ∧
        (graph.namespace? space).isSome = true := by
  rw [members_addEntity, List.mem_append]
  by_cases home : space = entity.home ∧ (graph.namespace? space).isSome = true
  · rw [if_pos home, List.mem_singleton, and_iff_left home]
  · rw [if_neg home]
    simp only [home, and_false, List.not_mem_nil]

theorem children_addEntity (entity : Entity) (handle : NamespaceRef) :
    (graph.addEntity entity).children handle = graph.children handle := by
  simp only [children, namespace?_addEntity]
  split
  · cases graph.namespace? handle <;> rfl
  · rfl

theorem parent?_addEntity (entity : Entity) (handle : NamespaceRef) :
    (graph.addEntity entity).parent? handle = graph.parent? handle := by
  simp only [parent?, namespace?_addEntity]
  split
  · cases graph.namespace? handle <;> rfl
  · rfl

@[simp] theorem size_namespaces_addEntity (entity : Entity) :
    (graph.addEntity entity).namespaces.size = graph.namespaces.size := by
  simp [addEntity]

/-- The record that a request describes, before it is entered anywhere. -/
def fresh (graph : Graph) (request : NamespaceRequest) : Namespace where
  name := request.name
  parent := request.parent
  children := []
  members := []
  forbidden := if request.forbidsSelf then
      (OrderedSet.ofList request.forbidden).insert graph.nextNamespace
    else .ofList request.forbidden

theorem lawful_fresh (request : NamespaceRequest) : (graph.fresh request).forbidden.Lawful := by
  unfold fresh
  split
  · exact OrderedSet.lawful_insert (OrderedSet.lawful_ofList _) _
  · exact OrderedSet.lawful_ofList _

@[simp] theorem size_namespaces_addNamespace (request : NamespaceRequest) :
    (graph.addNamespace request).namespaces.size = graph.namespaces.size + 1 := by
  unfold addNamespace
  cases request.parent <;> simp

/-- The new namespace takes the next slot. Its parent gains it as a child, and may be itself. -/
theorem namespace?_addNamespace (request : NamespaceRequest) (handle : NamespaceRef) :
    (graph.addNamespace request).namespace? handle =
      let found := if handle = graph.nextNamespace then some (graph.fresh request)
        else graph.namespace? handle
      if request.parent = some handle then found.map (·.addChild graph.nextNamespace)
      else found := by
  have next : handle = graph.nextNamespace ↔ handle.index = graph.namespaces.size :=
    ⟨fun equal => equal ▸ rfl, fun equal => Handle.ext_index equal⟩
  cases given : request.parent with
  | none =>
    simp only [namespace?, addNamespace, fresh, given, Array.getElem?_push, next, reduceCtorEq,
      if_false]
  | some parent =>
    have same : parent.index = handle.index ↔ parent = handle :=
      ⟨Handle.ext_index, fun equal => equal ▸ rfl⟩
    simp only [namespace?, addNamespace, fresh, given, Array.getElem?_modify, Array.getElem?_push,
      next, same, Option.some.injEq]

@[simp] theorem members_addNamespace (request : NamespaceRequest) (handle : NamespaceRef) :
    (graph.addNamespace request).members handle = graph.members handle := by
  simp only [members, namespace?_addNamespace]
  by_cases new : handle = graph.nextNamespace
  · subst new
    rw [namespace?_nextNamespace]
    split <;> simp [fresh, Namespace.addChild]
  · simp only [new, if_false]
    split
    · cases graph.namespace? handle <;> simp [Namespace.addChild]
    · rfl

/-- The new namespace becomes the last child of its parent, if its parent is there. -/
theorem children_addNamespace (request : NamespaceRequest) (handle : NamespaceRef) :
    (graph.addNamespace request).children handle = graph.children handle ++
      if request.parent = some handle ∧ handle.index ≤ graph.namespaces.size then
        [graph.nextNamespace]
      else [] := by
  simp only [children, namespace?_addNamespace]
  by_cases new : handle = graph.nextNamespace
  · subst new
    rw [namespace?_nextNamespace]
    have within : graph.nextNamespace.index ≤ graph.namespaces.size := Nat.le_refl _
    simp only [within, if_true, and_true]
    split <;> simp [fresh, Namespace.addChild, *]
  · have there : handle.index ≤ graph.namespaces.size ↔ (graph.namespace? handle).isSome := by
      rw [namespace?_isSome_iff]
      have differ : handle.index ≠ graph.namespaces.size :=
        fun same => new (Handle.ext_index same)
      omega
    simp only [new, if_false, there]
    split
    · cases graph.namespace? handle <;> simp [Namespace.addChild, *]
    · simp [*]

theorem mem_children_addNamespace_iff {request : NamespaceRequest} {child : NamespaceRef} :
    child ∈ (graph.addNamespace request).children space ↔ child ∈ graph.children space ∨
      child = graph.nextNamespace ∧ request.parent = some space ∧
        space.index ≤ graph.namespaces.size := by
  rw [children_addNamespace, List.mem_append]
  by_cases given : request.parent = some space ∧ space.index ≤ graph.namespaces.size
  · rw [if_pos given, List.mem_singleton, and_iff_left given]
  · rw [if_neg given]
    simp only [given, and_false, List.not_mem_nil]

theorem parent?_addNamespace (request : NamespaceRequest) (handle : NamespaceRef) :
    (graph.addNamespace request).parent? handle =
      if handle = graph.nextNamespace then request.parent else graph.parent? handle := by
  simp only [parent?, namespace?_addNamespace]
  by_cases new : handle = graph.nextNamespace
  · simp only [new, if_true]
    split <;> rfl
  · simp only [new, if_false]
    split
    · cases graph.namespace? handle <;> rfl
    · rfl

/-! ### Every history keeps the links -/

theorem linked_empty : empty.Linked where
  housed member := by simp [members, namespace?, empty] at member
  memberOnce space := by simp [members, namespace?, empty]
  born child := by simp [children, namespace?, empty] at child
  childOnce space := by simp [children, namespace?, empty]
  lawful found := by simp [namespace?, empty] at found

theorem Linked.addFunction (linked : graph.Linked) (function : NamingFunction) :
    (graph.addFunction function).Linked where
  housed := linked.housed
  memberOnce := linked.memberOnce
  born := linked.born
  childOnce := linked.childOnce
  lawful := linked.lawful

theorem Linked.addEntity (linked : graph.Linked) (entity : Entity) :
    (graph.addEntity entity).Linked where
  housed {space member} listed := by
    rw [entity?_addEntity]
    rcases mem_members_addEntity_iff.mp listed with old | ⟨rfl, home, -⟩
    · obtain ⟨found, there, home⟩ := linked.housed old
      exact ⟨found, by rw [if_neg (ne_nextEntity there), there], home⟩
    · exact ⟨entity, by rw [if_pos rfl], home.symm⟩
  memberOnce space := by
    rw [members_addEntity]
    split
    · refine List.nodup_append.mpr ⟨linked.memberOnce space, by simp, ?_⟩
      rintro member old other new rfl
      obtain ⟨found, there, -⟩ := linked.housed old
      exact ne_nextEntity there (List.mem_singleton.mp new)
    · simpa using linked.memberOnce space
  born {space child} listed := by
    rw [children_addEntity] at listed
    obtain ⟨there, parent⟩ := linked.born listed
    rw [namespace?_isSome_iff] at there ⊢
    rw [parent?_addEntity]
    exact ⟨by simpa using there, parent⟩
  childOnce space := by
    rw [children_addEntity]
    exact linked.childOnce space
  lawful {handle space} found := by
    rw [namespace?_addEntity] at found
    split at found
    · obtain ⟨old, there, rfl⟩ := Option.map_eq_some_iff.mp found
      exact @Linked.lawful _ linked handle old there
    · exact linked.lawful found

theorem Linked.addNamespace (linked : graph.Linked) (request : NamespaceRequest) :
    (graph.addNamespace request).Linked where
  housed {space member} listed := by
    rw [members_addNamespace] at listed
    exact linked.housed listed
  memberOnce space := by
    rw [members_addNamespace]
    exact linked.memberOnce space
  born {space child} listed := by
    rw [namespace?_isSome_iff, parent?_addNamespace, size_namespaces_addNamespace]
    rcases mem_children_addNamespace_iff.mp listed with old | ⟨rfl, given, -⟩
    · obtain ⟨there, parent⟩ := linked.born old
      have below := namespace?_isSome_iff.mp there
      exact ⟨by omega, by rw [if_neg (ne_nextNamespace there), parent]⟩
    · exact ⟨Nat.lt_succ_self _, by rw [if_pos rfl, given]⟩
  childOnce space := by
    rw [children_addNamespace]
    split
    · refine List.nodup_append.mpr ⟨linked.childOnce space, by simp, ?_⟩
      rintro child old other new rfl
      exact ne_nextNamespace (linked.born old).1 (List.mem_singleton.mp new)
    · simpa using linked.childOnce space
  lawful {handle space} found := by
    rw [namespace?_addNamespace] at found
    have old : ∀ record, (if handle = graph.nextNamespace then some (graph.fresh request)
        else graph.namespace? handle) = some record → record.forbidden.Lawful := by
      intro record there
      split at there
      · cases there
        exact lawful_fresh request
      · exact linked.lawful there
    dsimp only at found
    split at found
    · obtain ⟨record, there, rfl⟩ := Option.map_eq_some_iff.mp found
      exact old record there
    · exact old space found

/-- What each way to add something keeps, a step keeps. Reserved words are a namespace and then
entities. -/
theorem build_induction (Holds : Graph → Prop)
    (function : ∀ {graph function}, Holds graph → Holds (graph.addFunction function))
    (space : ∀ {graph request}, Holds graph → Holds (graph.addNamespace request))
    (entity : ∀ {graph entity}, Holds graph → Holds (graph.addEntity entity))
    (step : BuildStep) (held : Holds graph) : Holds (graph.build step) := by
  have keywords {home : NamespaceRef} (words : List String) {graph : Graph} (held : Holds graph) :
      Holds (words.foldl (·.addFixed home ·) graph) := by
    induction words generalizing graph with
    | nil => exact held
    | cons word rest ih => exact ih (entity held)
  cases step with
  | function added => exact function held
  | space request => exact space held
  | keywords name words => exact keywords words (space held)
  | fixed home name => exact entity held
  | simple home asked proposed => exact entity held
  | dependent home asked name dependencies combine => exact entity held

/-- What holds of the empty graph, and is kept by each way to add something, holds of every graph
that a history makes. -/
theorem ofSteps_induction (Holds : Graph → Prop) (start : Holds empty)
    (function : ∀ {graph function}, Holds graph → Holds (graph.addFunction function))
    (space : ∀ {graph request}, Holds graph → Holds (graph.addNamespace request))
    (entity : ∀ {graph entity}, Holds graph → Holds (graph.addEntity entity))
    (steps : List BuildStep) : Holds (ofSteps steps) := by
  suffices grown : ∀ graph : Graph, Holds graph → Holds (steps.foldl Graph.build graph) from
    grown empty start
  induction steps with
  | nil => exact fun _ held => held
  | cons step rest ih =>
    intro graph held
    exact ih _ (build_induction Holds function space entity step held)

theorem Linked.build (linked : graph.Linked) (step : BuildStep) : (graph.build step).Linked :=
  build_induction Linked (fun linked => linked.addFunction _) (fun linked => linked.addNamespace _)
    (fun linked => linked.addEntity _) step linked

/-- Every graph that a history makes is linked. -/
theorem linked_ofSteps (steps : List BuildStep) : (ofSteps steps).Linked :=
  ofSteps_induction Linked linked_empty (fun linked => linked.addFunction _)
    (fun linked => linked.addNamespace _) (fun linked => linked.addEntity _) steps

/-- No child is older than its parent. -/
theorem index_le_of_mem_children (steps : List BuildStep) {space child : NamespaceRef}
    (listed : child ∈ (ofSteps steps).children space) : space.index ≤ child.index := by
  let Ascending (graph : Graph) : Prop :=
    ∀ space, ∀ child ∈ graph.children space, space.index ≤ child.index
  suffices ascending : Ascending (ofSteps steps) from ascending space child listed
  apply ofSteps_induction Ascending
  · intro space child listed
    simp [children, namespace?, empty] at listed
  · exact fun held => held
  · intro graph request held space child listed
    rcases mem_children_addNamespace_iff.mp listed with old | ⟨rfl, -, older⟩
    · exact held space child old
    · exact older
  · intro graph entity held space child listed
    rw [children_addEntity] at listed
    exact held space child listed

theorem mem_roots_iff {handle : NamespaceRef} :
    handle ∈ graph.roots ↔
      (graph.namespace? handle).isSome = true ∧ graph.parent? handle = none := by
  unfold roots
  rw [List.mem_filterMap]
  constructor
  · rintro ⟨⟨space, index⟩, listed, chosen⟩
    dsimp only at chosen
    split at chosen
    · rename_i isRoot
      cases chosen
      have found : graph.namespace? ⟨index⟩ = some space := by
        simpa [namespace?] using List.mem_zipIdx_iff_getElem?.mp listed
      have parentless : graph.parent? ⟨index⟩ = none := by
        simpa [parent?, found, Namespace.isRoot] using isRoot
      exact ⟨Option.isSome_of_eq_some found, parentless⟩
    · cases chosen
  · rintro ⟨there, parentless⟩
    obtain ⟨space, found⟩ := Option.isSome_iff_exists.mp there
    have listed : (space, handle.index) ∈ graph.namespaces.toList.zipIdx := by
      apply List.mem_zipIdx_iff_getElem?.mpr
      simpa [namespace?] using found
    have isRoot : space.isRoot = true := by
      simpa [parent?, found, Namespace.isRoot] using parentless
    exact ⟨(space, handle.index), listed, by simp [isRoot]⟩

/-! ### Links in both directions -/

/-- Every entity stands among the members of its home, and every namespace that has a parent is a
child of it, and younger. -/
structure Anchored (graph : Graph) : Prop where
  housed : ∀ {handle entity}, graph.entity? handle = some entity →
    handle ∈ graph.members entity.home
  descends : ∀ {child space}, graph.parent? child = some space →
    space.index < child.index ∧ child ∈ graph.children space

theorem anchored_empty : empty.Anchored where
  housed found := by simp [entity?, empty] at found
  descends born := by simp [parent?, namespace?, empty] at born

theorem anchored_addFunction_iff (function : NamingFunction) :
    (graph.addFunction function).Anchored ↔ graph.Anchored :=
  ⟨fun anchored => ⟨anchored.housed, anchored.descends⟩,
    fun anchored => ⟨anchored.housed, anchored.descends⟩⟩

/-- The old links are not touched, and the new entity has one if its home is there. -/
theorem anchored_addEntity_iff (linked : graph.Linked) (entity : Entity) :
    (graph.addEntity entity).Anchored ↔
      graph.Anchored ∧ (graph.namespace? entity.home).isSome = true := by
  constructor
  · intro anchored
    refine ⟨⟨?_, ?_⟩, ?_⟩
    · intro handle old found
      have still : (graph.addEntity entity).entity? handle = some old := by
        rw [entity?_addEntity, if_neg (ne_nextEntity found), found]
      rcases mem_members_addEntity_iff.mp (anchored.housed still) with member | ⟨new, -, -⟩
      · exact member
      · exact absurd new (ne_nextEntity found)
    · intro child space born
      rw [← parent?_addEntity entity] at born
      rw [← children_addEntity entity]
      exact anchored.descends born
    · have found : (graph.addEntity entity).entity? graph.nextEntity = some entity := by
        rw [entity?_addEntity, if_pos rfl]
      rcases mem_members_addEntity_iff.mp (anchored.housed found) with old | ⟨-, -, there⟩
      · obtain ⟨known, there, -⟩ := linked.housed old
        exact absurd rfl (ne_nextEntity there)
      · exact there
  · rintro ⟨anchored, there⟩
    constructor
    · intro handle other found
      rw [entity?_addEntity] at found
      apply mem_members_addEntity_iff.mpr
      split at found
      · rename_i new
        cases found
        exact .inr ⟨new, rfl, there⟩
      · exact .inl (anchored.housed found)
    · intro child space born
      rw [parent?_addEntity] at born
      rw [children_addEntity]
      exact anchored.descends born

/-- The old links are not touched, and the new namespace has one if its parent is there. It is not
there for itself. -/
theorem anchored_addNamespace_iff (request : NamespaceRequest) :
    (graph.addNamespace request).Anchored ↔ graph.Anchored ∧
      ∀ parent, request.parent = some parent → (graph.namespace? parent).isSome = true := by
  constructor
  · intro anchored
    refine ⟨⟨?_, ?_⟩, ?_⟩
    · intro handle entity found
      rw [← members_addNamespace request]
      exact anchored.housed found
    · intro child space born
      have old := ne_nextNamespace (namespace?_of_parent? born)
      have still : (graph.addNamespace request).parent? child = some space := by
        rw [parent?_addNamespace, if_neg old, born]
      obtain ⟨older, listed⟩ := anchored.descends still
      rcases mem_children_addNamespace_iff.mp listed with listed | ⟨new, -, -⟩
      · exact ⟨older, listed⟩
      · exact absurd new old
    · intro parent given
      have born : (graph.addNamespace request).parent? graph.nextNamespace = some parent := by
        rw [parent?_addNamespace, if_pos rfl, given]
      exact namespace?_isSome_iff.mpr (anchored.descends born).1
  · rintro ⟨anchored, there⟩
    constructor
    · intro handle entity found
      rw [members_addNamespace]
      exact anchored.housed found
    · intro child space born
      rw [parent?_addNamespace] at born
      rw [mem_children_addNamespace_iff]
      split at born
      · rename_i new
        subst new
        have older := namespace?_isSome_iff.mp (there space born)
        exact ⟨older, .inr ⟨rfl, born, Nat.le_of_lt older⟩⟩
      · obtain ⟨older, listed⟩ := anchored.descends born
        exact ⟨older, .inl listed⟩

/-! ### What the links give -/

/-- A member is at home where it is listed. -/
theorem Linked.home_eq (linked : graph.Linked) (listed : member ∈ graph.members space)
    (found : graph.entity? member = some entity) : entity.home = space := by
  obtain ⟨same, again, home⟩ := linked.housed listed
  rw [found] at again
  cases again
  exact home

/-- An entity is a member of at most one namespace. -/
theorem Linked.home_unique (linked : graph.Linked) (first : member ∈ graph.members space)
    (second : member ∈ graph.members other) : space = other := by
  obtain ⟨entity, found, rfl⟩ := linked.housed first
  exact linked.home_eq second found

/-- Members are entities, whatever namespaces list them. -/
theorem Linked.known_of_placed (linked : graph.Linked) {forest : List NamespaceRef}
    (placed : member ∈ forest.flatMap graph.members) :
    (graph.entity? member).isSome = true := by
  obtain ⟨space, -, listed⟩ := List.mem_flatMap.mp placed
  obtain ⟨entity, found, -⟩ := linked.housed listed
  exact Option.isSome_of_eq_some found

/-- Namespaces listed once list their members once. -/
theorem Linked.nodup_flatMap_members (linked : graph.Linked) {forest : List NamespaceRef}
    (once : forest.Nodup) : (forest.flatMap graph.members).Nodup := by
  rw [List.nodup_flatMap]
  refine ⟨fun space _ => linked.memberOnce space, once.imp ?_⟩
  intro space other differ member first second
  exact differ (linked.home_unique first second)

/-- The two ways to ask what a namespace forbids agree. -/
theorem Linked.forbids_iff (linked : graph.Linked) (space other : NamespaceRef) :
    graph.forbids space other = true ↔ other ∈ graph.forbidden space := by
  unfold forbids forbidden
  cases found : graph.namespace? space with
  | none => simp
  | some record =>
    simpa [Namespace.forbids] using ((linked.lawful found).listed other).symm

end NameAssignment.Graph
