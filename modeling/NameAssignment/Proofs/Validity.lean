import NameAssignment.Graph.Validity
import NameAssignment.Proofs.Links

/-! A graph is accepted exactly when every handle it mentions is that of something in it. -/
namespace NameAssignment

variable {graph : Graph}

/-- Every handle that the graph mentions points at a filled slot. -/
structure Graph.Valid (graph : Graph) : Prop where
  parent : ∀ {handle space parent}, graph.namespace? handle = some space →
    space.parent = some parent → (graph.namespace? parent).isSome = true
  forbidden : ∀ {handle space}, graph.namespace? handle = some space →
    ∀ other ∈ space.forbidden.toList, (graph.namespace? other).isSome = true
  home : ∀ {handle entity}, graph.entity? handle = some entity →
    (graph.namespace? entity.home).isSome = true
  function : ∀ {handle entity function}, graph.entity? handle = some entity →
    entity.function? = some function → (graph.function? function).isSome = true
  dependency : ∀ {handle entity}, graph.entity? handle = some entity →
    ∀ dependency ∈ entity.dependencies, (graph.entity? dependency).isSome = true

/-- A namespace has nothing dangling if its parent and all that it forbids are there. -/
theorem Namespace.dangling?_eq_none_iff {space : Namespace} :
    space.dangling? graph = none ↔
      (∀ parent, space.parent = some parent → (graph.namespace? parent).isSome = true) ∧
        ∀ other ∈ space.forbidden.toList, (graph.namespace? other).isSome = true := by
  simp only [dangling?, Option.or_eq_none_iff, Option.map_eq_none_iff, Option.filter_eq_none_iff,
    List.find?_eq_none, Option.isNone_iff_eq_none, Option.isSome_iff_ne_none]

/-- An entity has nothing dangling if its home, its naming function and its dependencies are
there. -/
theorem Entity.dangling?_eq_none_iff {entity : Entity} {handle : EntityRef} :
    entity.dangling? handle graph = none ↔ (graph.namespace? entity.home).isSome = true ∧
      (∀ function, entity.function? = some function → (graph.function? function).isSome = true) ∧
        ∀ dependency ∈ entity.dependencies, (graph.entity? dependency).isSome = true := by
  unfold dangling?
  cases home : graph.namespace? entity.home with
  | none => simp
  | some space =>
    simp only [Option.isNone_some, Bool.false_eq_true, if_false, Option.or_eq_none_iff,
      Option.map_eq_none_iff, Option.filter_eq_none_iff, List.find?_eq_none,
      Option.isNone_iff_eq_none, Option.isSome_iff_ne_none, true_and, ne_eq, reduceCtorEq,
      not_false_eq_true]

namespace Graph

theorem mem_namespaces_iff {space : Namespace} :
    space ∈ graph.namespaces.toList ↔ ∃ handle, graph.namespace? handle = some space := by
  rw [List.mem_iff_getElem?]
  constructor
  · rintro ⟨index, found⟩
    exact ⟨⟨index⟩, by simpa [namespace?] using found⟩
  · rintro ⟨handle, found⟩
    exact ⟨handle.index, by simpa [namespace?] using found⟩

theorem mem_zipIdx_entities_iff {entity : Entity} {index : Nat} :
    (entity, index) ∈ graph.entities.toList.zipIdx ↔ graph.entity? ⟨index⟩ = some entity := by
  rw [List.mem_zipIdx_iff_getElem?]
  simp [entity?]

/-- Acceptance is validity. -/
theorem validate_ok_iff : graph.validate = .ok () ↔ graph.Valid := by
  have accepted : graph.validate = .ok () ↔ graph.firstDangling? = none := by
    unfold validate
    cases graph.firstDangling? <;> simp
  rw [accepted, firstDangling?, Option.or_eq_none_iff, List.findSome?_eq_none_iff,
    List.findSome?_eq_none_iff]
  constructor
  · rintro ⟨spaces, entities⟩
    have space {handle : NamespaceRef} {record : Namespace}
        (found : graph.namespace? handle = some record) :=
      Namespace.dangling?_eq_none_iff.mp (spaces record (mem_namespaces_iff.mpr ⟨handle, found⟩))
    have entity {handle : EntityRef} {record : Entity}
        (found : graph.entity? handle = some record) :=
      Entity.dangling?_eq_none_iff.mp
        (entities (record, handle.index) (mem_zipIdx_entities_iff.mpr found))
    exact ⟨fun found => (space found).1 _, fun found => (space found).2,
      fun found => (entity found).1, fun found => (entity found).2.1 _,
      fun found => (entity found).2.2⟩
  · intro valid
    constructor
    · intro space member
      obtain ⟨handle, found⟩ := mem_namespaces_iff.mp member
      exact Namespace.dangling?_eq_none_iff.mpr
        ⟨fun parent => valid.parent found, valid.forbidden found⟩
    · rintro ⟨entity, index⟩ member
      have found := mem_zipIdx_entities_iff.mp member
      exact Entity.dangling?_eq_none_iff.mpr
        ⟨valid.home found, fun function => valid.function found, valid.dependency found⟩

theorem Valid.known_of_forbidden (valid : graph.Valid) {handle other : NamespaceRef}
    (listed : other ∈ graph.forbidden handle) : (graph.namespace? other).isSome = true := by
  cases found : graph.namespace? handle with
  | none => simp [Graph.forbidden, found] at listed
  | some space => exact valid.forbidden found other (by simpa [Graph.forbidden, found] using listed)

end Graph

end NameAssignment
