import NameAssignment.Proofs.Counting
import NameAssignment.Proofs.Forest
import NameAssignment.Proofs.Validity

/-! Graphs built to a plan. A plan says in advance how many namespaces and entities there will be,
so that a reference can point forward. If homes come before their entities and parents before their
children, a graph that fulfils its plan is accepted, and all of it is below the roots. -/
namespace NameAssignment

/-- What a graph will hold when it is finished. -/
structure Plan where
  functions : Nat
  spaces : Nat
  entities : Nat
  /-- The namespaces without a parent. -/
  roots : List NamespaceRef

namespace Graph

variable {graph : Graph} {plan : Plan}

/-- How a graph follows a plan, whether or not all of it is there yet. -/
structure Follows (graph : Graph) (plan : Plan) : Prop where
  linked : graph.Linked
  /-- An entity is a member of its home. -/
  housed : ∀ {handle entity}, graph.entity? handle = some entity →
    handle ∈ graph.members entity.home
  /-- A namespace comes after its parent and is one of its children. -/
  descends : ∀ {child space}, graph.parent? child = some space →
    space.index < child.index ∧ child ∈ graph.children space
  root : ∀ {handle}, (graph.namespace? handle).isSome = true → graph.parent? handle = none →
    handle ∈ plan.roots
  forbidden : ∀ {handle other}, other ∈ graph.forbidden handle → other.index < plan.spaces
  function : ∀ {handle entity function}, graph.entity? handle = some entity →
    entity.function? = some function → function.index < plan.functions
  dependency : ∀ {handle entity dependency}, graph.entity? handle = some entity →
    dependency ∈ entity.dependencies → dependency.index < plan.entities
  functions : graph.functions.size = plan.functions
  reliable : ∀ {handle function}, graph.function? handle = some function → function.Reliable

theorem Follows.anchored (follows : graph.Follows plan) : graph.Anchored :=
  ⟨follows.housed, follows.descends⟩

/-! ### A plan that is fulfilled -/

/-- The graph holds all that was planned. -/
structure Fulfils (graph : Graph) (plan : Plan) : Prop where
  follows : graph.Follows plan
  spaces : plan.spaces ≤ graph.namespaces.size
  entities : plan.entities ≤ graph.entities.size
  roots : ∀ root ∈ plan.roots, root.index < plan.spaces

theorem Fulfils.valid (fulfils : graph.Fulfils plan) : graph.Valid where
  parent {handle space parent} found given := by
    have born : graph.parent? handle = some parent := by simp [parent?, found, given]
    have earlier := (fulfils.follows.descends born).1
    have there := namespace?_isSome_iff.mp (Option.isSome_of_eq_some found)
    exact namespace?_isSome_iff.mpr (by omega)
  forbidden {handle space} found other listed := by
    have inside : other ∈ graph.forbidden handle := by simpa [Graph.forbidden, found] using listed
    have planned := fulfils.follows.forbidden inside
    have enough := fulfils.spaces
    exact namespace?_isSome_iff.mpr (by omega)
  home {handle entity} found := by
    obtain ⟨space, there, -⟩ := namespace?_of_member (fulfils.follows.housed found)
    exact Option.isSome_of_eq_some there
  function {handle entity function} found asked := by
    have planned := fulfils.follows.function found asked
    rw [← fulfils.follows.functions] at planned
    simpa [function?] using planned
  dependency {handle entity} found dependency needed := by
    have planned := fulfils.follows.dependency found needed
    have enough := fulfils.entities
    exact entity?_isSome_iff.mpr (by omega)

theorem Fulfils.known (fulfils : graph.Fulfils plan) :
    ∀ root ∈ plan.roots, (graph.namespace? root).isSome = true := by
  intro root listed
  have planned := fulfils.roots root listed
  have enough := fulfils.spaces
  exact namespace?_isSome_iff.mpr (by omega)

/-- The whole graph is below its roots. -/
theorem Fulfils.covered (fulfils : graph.Fulfils plan) {forest : List NamespaceRef}
    (flattened : graph.flatten plan.roots = .ok forest) (space : NamespaceRef)
    (there : (graph.namespace? space).isSome = true) : space ∈ forest :=
  mem_forest_of_anchored fulfils.follows.linked fulfils.follows.anchored fulfils.known flattened
    fulfils.follows.root there

/-- And with it every entity. -/
theorem Fulfils.placed (fulfils : graph.Fulfils plan) {forest : List NamespaceRef}
    (flattened : graph.flatten plan.roots = .ok forest)
    (found : graph.entity? handle = some entity) : handle ∈ forest.flatMap graph.members := by
  have listed := fulfils.covered flattened entity.home (fulfils.valid.home found)
  exact List.mem_flatMap.mpr ⟨entity.home, listed, fulfils.follows.housed found⟩

end Graph

end NameAssignment
