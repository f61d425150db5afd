import NameAssignment.Proofs.Counting
import NameAssignment.Proofs.Guarding
import NameAssignment.Proofs.Renaming

/-! The guard makes it pointless to forbid oneself. A run asks three things of the namespaces that
one forbids: whether they are fully named, which names they hold, and whether a holder is a rival.
Each answer leaves the namespace itself aside or counts it in already when the run is guarded. So a
history whose namespaces are marked as forbidding themselves, whichever of them, resolves as it did
without the marks: with the same calls, and to the same names or the same error. -/
namespace NameAssignment

namespace Subsumption

variable {graph other : Graph} {guarded : Bool}

/-! ### What a run reads -/

/-- All that a run reads of a graph is the same in another. -/
structure Agree (guarded : Bool) (graph other : Graph) : Prop where
  validate : other.validate = graph.validate
  flatten : other.flatten = graph.flatten
  members : other.members = graph.members
  entities : other.entities = graph.entities
  functions : other.functions = graph.functions
  isEligible : other.isEligible = graph.isEligible
  forbiddenNames : ∀ names space,
    other.forbiddenNames names guarded space = graph.forbiddenNames names guarded space
  areRivals : NamingState.areRivals other = NamingState.areRivals graph

namespace Agree

theorem renames (agree : Agree guarded graph other) : Renames id guarded graph other where
  injective := Function.injective_id
  validate := by rw [mapError_renamed_id, agree.validate]
  flatten roots := by rw [mapError_renamed_id, agree.flatten]
  members := agree.members
  entities := by
    have same : Entity.renamed id = id := funext Entity.renamed_id
    rw [same, Array.map_id, agree.entities]
  functions handle := by
    have same : NamingFunction.renamed id = id := funext NamingFunction.renamed_id
    rw [same, Option.map_id_fun, id, id, Graph.function?, Graph.function?, agree.functions]
  isEligible := agree.isEligible
  forbiddenNames := agree.forbiddenNames
  areRivals := agree.areRivals

/-- A run that reads the same asks the same and ends alike. -/
theorem resolve (agree : Agree guarded graph other) (roots : List NamespaceRef) :
    other.resolve guarded roots = graph.resolve guarded roots := by
  rw [agree.renames.resolve, Logged.renamed_id]

end Agree

/-! ### Marked namespaces -/

/-- A namespace that is marked forbids itself, on top of what it forbids. -/
def markedSpace (marked : NamespaceRef → Bool) (handle : NamespaceRef) (space : Namespace) :
    Namespace :=
  if marked handle then { space with forbidden := space.forbidden.insert handle } else space

/-- The graph with its marked namespaces forbidding themselves. -/
def markedGraph (marked : NamespaceRef → Bool) (graph : Graph) : Graph :=
  { graph with namespaces := graph.namespaces.mapIdx fun index => markedSpace marked ⟨index⟩ }

variable {marked : NamespaceRef → Bool}

@[simp] theorem name_markedSpace (handle : NamespaceRef) (space : Namespace) :
    (markedSpace marked handle space).name = space.name := by
  unfold markedSpace
  split <;> rfl

@[simp] theorem parent_markedSpace (handle : NamespaceRef) (space : Namespace) :
    (markedSpace marked handle space).parent = space.parent := by
  unfold markedSpace
  split <;> rfl

@[simp] theorem children_markedSpace (handle : NamespaceRef) (space : Namespace) :
    (markedSpace marked handle space).children = space.children := by
  unfold markedSpace
  split <;> rfl

@[simp] theorem members_markedSpace (handle : NamespaceRef) (space : Namespace) :
    (markedSpace marked handle space).members = space.members := by
  unfold markedSpace
  split <;> rfl

theorem markedSpace_addMember (handle : NamespaceRef) (space : Namespace) (member : EntityRef) :
    (markedSpace marked handle space).addMember member =
      markedSpace marked handle (space.addMember member) := by
  unfold markedSpace
  split <;> rfl

theorem markedSpace_addChild (handle : NamespaceRef) (space : Namespace) (child : NamespaceRef) :
    (markedSpace marked handle space).addChild child =
      markedSpace marked handle (space.addChild child) := by
  unfold markedSpace
  split <;> rfl

theorem namespace?_markedGraph (handle : NamespaceRef) :
    (markedGraph marked graph).namespace? handle =
      (graph.namespace? handle).map (markedSpace marked handle) := by
  simp [Graph.namespace?, markedGraph]

@[simp] theorem isNone_namespace?_markedGraph (handle : NamespaceRef) :
    ((markedGraph marked graph).namespace? handle).isNone = (graph.namespace? handle).isNone := by
  rw [namespace?_markedGraph, Option.isNone_map]

theorem nextNamespace_markedGraph :
    (markedGraph marked graph).nextNamespace = graph.nextNamespace := by
  simp [Graph.nextNamespace, markedGraph]

@[simp] theorem members_markedGraph (space : NamespaceRef) :
    (markedGraph marked graph).members space = graph.members space := by
  rw [Graph.members, Graph.members, namespace?_markedGraph]
  cases graph.namespace? space <;> simp

/-- A marked namespace forbids itself, and nothing else is added. -/
theorem mem_forbidden_markedGraph (linked : graph.Linked) {space target : NamespaceRef} :
    target ∈ (markedGraph marked graph).forbidden space ↔ target ∈ graph.forbidden space ∨
      target = space ∧ marked space = true ∧ (graph.namespace? space).isSome = true := by
  rw [Graph.forbidden, Graph.forbidden, namespace?_markedGraph]
  cases found : graph.namespace? space with
  | none => simp
  | some record =>
    have lawful := linked.lawful found
    cases mark : marked space with
    | false => simp [markedSpace, mark]
    | true => simp [markedSpace, mark, OrderedSet.mem_toList_insert lawful, or_comm]

theorem forbids_markedGraph {space target : NamespaceRef} :
    (markedGraph marked graph).forbids space target = true ↔ graph.forbids space target = true ∨
      target = space ∧ marked space = true ∧ (graph.namespace? space).isSome = true := by
  rw [Graph.forbids, Graph.forbids, namespace?_markedGraph]
  cases graph.namespace? space with
  | none => simp
  | some record =>
    cases mark : marked space with
    | false => simp [markedSpace, mark]
    | true =>
      simp [markedSpace, mark, Namespace.forbids, OrderedSet.contains_insert, or_comm,
        @eq_comm _ space]

/-! ### Marks are neutral in a guarded run -/

/-- A namespace that forbids itself does not dangle for that. -/
theorem dangling?_markedSpace (found : graph.namespace? handle = some space) :
    (markedSpace marked handle space).dangling? (markedGraph marked graph) =
      space.dangling? graph := by
  have listed : (markedSpace marked handle space).forbidden.toList.find?
        (fun other => (graph.namespace? other).isNone) =
      space.forbidden.toList.find? fun other => (graph.namespace? other).isNone := by
    unfold markedSpace
    split
    · rw [OrderedSet.toList_insert]
      split
      · rfl
      · simp [List.find?_append, found]
    · rfl
  simp only [Namespace.dangling?, isNone_namespace?_markedGraph, listed, name_markedSpace,
    parent_markedSpace]

theorem validate_markedGraph (marked : NamespaceRef → Bool) (graph : Graph) :
    (markedGraph marked graph).validate = graph.validate := by
  have spaces : (markedGraph marked graph).namespaces.toList.findSome?
        (·.dangling? (markedGraph marked graph)) =
      graph.namespaces.toList.findSome? (·.dangling? graph) := by
    have records : (markedGraph marked graph).namespaces.toList =
        graph.namespaces.toList.zipIdx.map fun slot => markedSpace marked ⟨slot.2⟩ slot.1 := by
      rw [markedGraph, Array.toList_mapIdx, List.mapIdx_eq_zipIdx_map]
    have plain := List.zipIdx_map_fst 0 graph.namespaces.toList
    rw [records, ← plain, List.findSome?_map, List.findSome?_map, plain,
      ← List.head?_filterMap, ← List.head?_filterMap]
    congr 1
    apply List.filterMap_congr
    rintro ⟨space, index⟩ listed
    apply dangling?_markedSpace
    simpa [Graph.namespace?] using List.mem_zipIdx_iff_getElem?.mp listed
  have entity (entity : Entity) (handle : EntityRef) :
      entity.dangling? handle (markedGraph marked graph) = entity.dangling? handle graph := by
    rw [Entity.dangling?, isNone_namespace?_markedGraph]
    rfl
  have first : (markedGraph marked graph).firstDangling? = graph.firstDangling? := by
    simp only [Graph.firstDangling?, spaces, entity]
    rfl
  rw [Graph.validate, Graph.validate, first]

theorem agree_markedGraph (linked : graph.Linked) (marked : NamespaceRef → Bool) :
    Agree true graph (markedGraph marked graph) where
  validate := validate_markedGraph marked graph
  flatten := by
    funext roots
    apply Graph.flatten_congr
    intro handle
    rw [namespace?_markedGraph]
    cases graph.namespace? handle <;> simp
  members := funext members_markedGraph
  entities := rfl
  functions := rfl
  isEligible := by
    -- a namespace does not wait for itself
    funext names space
    rw [Bool.eq_iff_iff, NamingState.isEligible_iff, NamingState.isEligible_iff]
    have named : (markedGraph marked graph).isFullyNamed = graph.isFullyNamed := by
      funext names space
      rw [Graph.isFullyNamed, Graph.isFullyNamed, members_markedGraph]
    simp only [mem_forbidden_markedGraph linked, named]
    grind
  forbiddenNames names space := by
    -- the guard looks into the namespace anyway
    apply NameSet.eq_of_contains
    intro name
    rw [Bool.eq_iff_iff, NamingState.contains_forbiddenNames_iff,
      NamingState.contains_forbiddenNames_iff]
    simp only [mem_forbidden_markedGraph linked, members_markedGraph]
    grind
  areRivals := by
    -- members of one namespace are rivals anyway
    funext entity holder
    rw [Bool.eq_iff_iff, NamingState.areRivals_iff, NamingState.areRivals_iff]
    have home (self other : Entity) : (other.home = self.home ∨
          (markedGraph marked graph).forbids self.home other.home = true) ↔
        other.home = self.home ∨ graph.forbids self.home other.home = true := by
      rw [forbids_markedGraph]
      grind
    simp only [home]
    rfl

/-! ### Marked histories -/

/-- A step with the namespace that it makes, if it makes one, forbidding itself. Reserved words are
taken apart: a namespace, and then entities. -/
def selfForbidding (handle : NamespaceRef) : BuildStep → List BuildStep
  | .space request => [.space { request with forbidsSelf := true }]
  | .keywords name words => .space { name, forbidsSelf := true } :: words.map (.fixed handle)
  | step => [step]

/-- How many namespaces a step makes. -/
def spacesMade : BuildStep → Nat
  | .space _ => 1
  | .keywords _ _ => 1
  | _ => 0

/-- A history with its marked namespaces forbidding themselves, where `made` namespaces are there
already. -/
def markedSteps (marked : NamespaceRef → Bool) : Nat → List BuildStep → List BuildStep
  | _, [] => []
  | made, step :: rest =>
    (if marked ⟨made⟩ then selfForbidding ⟨made⟩ step else [step]) ++
      markedSteps marked (made + spacesMade step) rest

/-- Graphs with the same records are equal. -/
theorem eq_of_namespace? (spaces : ∀ handle, other.namespace? handle = graph.namespace? handle)
    (entities : other.entities = graph.entities) (functions : other.functions = graph.functions) :
    other = graph := by
  have same : other.namespaces = graph.namespaces := Array.ext_getElem? fun index => spaces ⟨index⟩
  cases graph
  cases other
  simp_all

theorem markedGraph_addEntity (entity : Entity) :
    (markedGraph marked graph).addEntity entity = markedGraph marked (graph.addEntity entity) := by
  apply eq_of_namespace?
  · intro handle
    rw [Graph.namespace?_addEntity, namespace?_markedGraph, namespace?_markedGraph,
      Graph.namespace?_addEntity]
    split
    · rw [Option.map_map, Option.map_map]
      apply Option.map_congr
      intro space _
      exact markedSpace_addMember handle space _
    · rfl
  · rfl
  · rfl

/-- A new namespace that forbids itself is a new namespace that is marked. -/
theorem markedGraph_addNamespace (marked : NamespaceRef → Bool) (graph : Graph)
    (request : NamespaceRequest) :
    (markedGraph marked graph).addNamespace { request with
        forbidsSelf := request.forbidsSelf || marked graph.nextNamespace } =
      markedGraph marked (graph.addNamespace request) := by
  have fresh : (markedGraph marked graph).fresh { request with
        forbidsSelf := request.forbidsSelf || marked graph.nextNamespace } =
      markedSpace marked graph.nextNamespace (graph.fresh request) := by
    rw [Graph.fresh, nextNamespace_markedGraph, markedSpace, Graph.fresh]
    cases request.forbidsSelf <;> cases marked graph.nextNamespace <;>
      simp [OrderedSet.insert_of_contains, OrderedSet.contains_insert]
  apply eq_of_namespace?
  · intro handle
    rw [Graph.namespace?_addNamespace, namespace?_markedGraph, namespace?_markedGraph,
      Graph.namespace?_addNamespace, nextNamespace_markedGraph, fresh]
    have found : (if handle = graph.nextNamespace then
          some (markedSpace marked graph.nextNamespace (graph.fresh request))
        else (graph.namespace? handle).map (markedSpace marked handle)) =
        (if handle = graph.nextNamespace then some (graph.fresh request)
          else graph.namespace? handle).map (markedSpace marked handle) := by
      split
      · rename_i new
        rw [new, Option.map_some]
      · rfl
    dsimp only
    rw [found]
    split
    · rw [Option.map_map, Option.map_map]
      apply Option.map_congr
      intro space _
      exact markedSpace_addChild handle space _
    · rfl
  · rw [Graph.addNamespace, Graph.addNamespace]
    rfl
  · rfl

theorem markedGraph_addFixed (marked : NamespaceRef → Bool) (graph : Graph) (home : NamespaceRef)
    (words : List String) :
    words.foldl (·.addFixed home ·) (markedGraph marked graph) =
      markedGraph marked (words.foldl (·.addFixed home ·) graph) :=
  List.foldl_hom _ fun _ _ => markedGraph_addEntity _

/-- A marked step adds to the marked graph what the step adds, marked. -/
theorem markedGraph_build (step : BuildStep) :
    (if marked graph.nextNamespace then selfForbidding graph.nextNamespace step
      else [step]).foldl Graph.build (markedGraph marked graph) =
      markedGraph marked (graph.build step) := by
  cases step with
  | function added =>
    simp only [selfForbidding, ite_self]
    rfl
  | space request =>
    have added := markedGraph_addNamespace marked graph request
    cases mark : marked graph.nextNamespace with
    | true => simpa [mark, selfForbidding, Graph.build] using added
    | false => simpa [mark, Graph.build] using added
  | keywords name words =>
    have added := markedGraph_addNamespace marked graph { name }
    have whole :=
      markedGraph_addFixed marked (graph.addNamespace { name }) graph.nextNamespace words
    rw [← added] at whole
    cases mark : marked graph.nextNamespace with
    | true =>
      simpa [mark, selfForbidding, Graph.build, Graph.addKeywords, List.foldl_map] using whole
    | false =>
      simpa [mark, Graph.build, Graph.addKeywords, nextNamespace_markedGraph] using whole
  | fixed home name =>
    simp only [selfForbidding, ite_self]
    exact markedGraph_addEntity _
  | simple home asked proposed =>
    simp only [selfForbidding, ite_self]
    exact markedGraph_addEntity _
  | dependent home asked name dependencies combine =>
    simp only [selfForbidding, ite_self]
    exact markedGraph_addEntity _

theorem size_namespaces_build (step : BuildStep) :
    (graph.build step).namespaces.size = graph.namespaces.size + spacesMade step := by
  have keywords (home : NamespaceRef) (words : List String) (graph : Graph) :
      (words.foldl (·.addFixed home ·) graph).namespaces.size = graph.namespaces.size := by
    induction words generalizing graph with
    | nil => rfl
    | cons word rest ih => exact (ih _).trans (Graph.size_namespaces_addEntity _)
  cases step with
  | function added => rfl
  | space request => exact Graph.size_namespaces_addNamespace request
  | keywords name words => exact (keywords _ words _).trans (Graph.size_namespaces_addNamespace _)
  | fixed home name => exact Graph.size_namespaces_addEntity _
  | simple home asked proposed => exact Graph.size_namespaces_addEntity _
  | dependent home asked name dependencies combine => exact Graph.size_namespaces_addEntity _

/-- A marked history makes the marked graph. -/
theorem ofSteps_markedSteps (marked : NamespaceRef → Bool) (steps : List BuildStep) :
    Graph.ofSteps (markedSteps marked 0 steps) = markedGraph marked (Graph.ofSteps steps) := by
  have grown (start : Graph) : (markedSteps marked start.namespaces.size steps).foldl Graph.build
        (markedGraph marked start) =
      markedGraph marked (steps.foldl Graph.build start) := by
    induction steps generalizing start with
    | nil => rfl
    | cons step rest ih =>
      rw [markedSteps, List.foldl_append, ← size_namespaces_build, List.foldl_cons, ← ih]
      exact congrArg (List.foldl Graph.build · _) (markedGraph_build step)
  exact grown .empty

/-- **The guard subsumes self-forbidding.** In a guarded run it makes no difference which namespaces
forbid themselves: whatever the naming functions are, and whichever namespaces are marked, the run
makes the same calls and ends alike, with the same names, the same entities left over and as many
rounds, or with the same error. -/
theorem guard_subsumes_self_forbidding (steps : List BuildStep) (marked : NamespaceRef → Bool)
    (roots : List NamespaceRef) :
    (Graph.ofSteps (markedSteps marked 0 steps)).resolve true roots =
      (Graph.ofSteps steps).resolve true roots := by
  rw [ofSteps_markedSteps]
  exact (agree_markedGraph (Graph.linked_ofSteps steps) marked).resolve roots

/-- Two members, where the second asks for the name of the first. -/
def echo : List BuildStep := [
  .function (Counting.names '_'),
  .space { name := "types" },
  .simple ⟨0⟩ ⟨0⟩ "Foo",
  .dependent ⟨0⟩ ⟨0⟩ "Echo" [⟨0⟩] (·.headD "")]

/-- Without the guard a mark is what saves them from a conflict. -/
example : ((Graph.ofSteps echo).resolve false [⟨0⟩]).result.isOk = false ∧
    ((Graph.ofSteps (markedSteps (fun _ => true) 0 echo)).resolve false [⟨0⟩]).result.isOk = true :=
  ⟨rfl, rfl⟩

end Subsumption

end NameAssignment
