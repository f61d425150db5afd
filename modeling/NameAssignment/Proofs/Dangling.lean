import NameAssignment.Proofs.Attribution
import NameAssignment.Proofs.Strict

/-! A run is refused for a handle past the end of its arena, wherever the handle stands, and for
nothing else. It is refused before anything is asked: other naming functions and other ways to
combine names would not change the answer. Any other run indexes the arenas within their bounds. -/
namespace NameAssignment.Dangling

/-- A handle that points past the end of its arena, and where it stands. -/
inductive Dangles (graph : Graph) (roots : List NamespaceRef) : Prop
  | parent (found : graph.namespace? handle = some space) (given : space.parent = some missing)
      (outside : graph.namespaces.size ≤ missing.index) : Dangles graph roots
  | forbidden (found : graph.namespace? handle = some space)
      (listed : missing ∈ space.forbidden.toList)
      (outside : graph.namespaces.size ≤ missing.index) : Dangles graph roots
  | home (found : graph.entity? handle = some entity)
      (outside : graph.namespaces.size ≤ entity.home.index) : Dangles graph roots
  | function (found : graph.entity? handle = some entity) (asked : entity.function? = some missing)
      (outside : graph.functions.size ≤ missing.index) : Dangles graph roots
  | dependency (found : graph.entity? handle = some entity) (listed : missing ∈ entity.dependencies)
      (outside : graph.entities.size ≤ missing.index) : Dangles graph roots
  | root (listed : missing ∈ roots) (outside : graph.namespaces.size ≤ missing.index) :
      Dangles graph roots

variable {graph other : Graph} {roots : List NamespaceRef}

/-- Without a handle that dangles a graph is valid, and its roots are known. -/
theorem not_dangles_iff : ¬ Dangles graph roots ↔
    graph.Valid ∧ ∀ root ∈ roots, (graph.namespace? root).isSome = true := by
  constructor
  · intro none
    have within {size index : Nat} (inside : ¬ size ≤ index) : index < size :=
      Nat.lt_of_not_le inside
    refine ⟨⟨?_, ?_, ?_, ?_, ?_⟩, ?_⟩
    · exact fun found given => Graph.namespace?_isSome_iff.mpr
        (within fun outside => none (.parent found given outside))
    · exact fun found other listed => Graph.namespace?_isSome_iff.mpr
        (within fun outside => none (.forbidden found listed outside))
    · exact fun found => Graph.namespace?_isSome_iff.mpr
        (within fun outside => none (.home found outside))
    · exact fun found asked => Graph.function?_isSome_iff.mpr
        (within fun outside => none (.function found asked outside))
    · exact fun found dependency listed => Graph.entity?_isSome_iff.mpr
        (within fun outside => none (.dependency found listed outside))
    · exact fun root listed => Graph.namespace?_isSome_iff.mpr
        (within fun outside => none (.root listed outside))
  · rintro ⟨valid, known⟩ dangles
    cases dangles with
    | parent found given outside =>
      exact Nat.not_lt.mpr outside (Graph.namespace?_isSome_iff.mp (valid.parent found given))
    | forbidden found listed outside =>
      exact Nat.not_lt.mpr outside
        (Graph.namespace?_isSome_iff.mp (valid.forbidden found _ listed))
    | home found outside =>
      exact Nat.not_lt.mpr outside (Graph.namespace?_isSome_iff.mp (valid.home found))
    | function found asked outside =>
      exact Nat.not_lt.mpr outside (Graph.function?_isSome_iff.mp (valid.function found asked))
    | dependency found listed outside =>
      exact Nat.not_lt.mpr outside (Graph.entity?_isSome_iff.mp (valid.dependency found _ listed))
    | root listed outside =>
      exact Nat.not_lt.mpr outside (Graph.namespace?_isSome_iff.mp (known _ listed))

/-! ### What is checked first -/

/-- What happens before anything is named. -/
def accept (graph : Graph) (roots : List NamespaceRef) : Except Error (List NamespaceRef) := do
  graph.validate
  graph.flatten roots

theorem resolve_of_refused {guarded : Bool} (refused : accept graph roots = .error cause) :
    graph.resolve guarded roots = .of (.error cause) := by
  unfold Graph.resolve
  rcases except_bind_error refused with invalid | ⟨⟨⟩, accepted, unknown⟩
  · rw [invalid]
    rfl
  · rw [accepted, unknown]
    rfl

/-- A graph is refused if some handle dangles. -/
theorem refused_of_dangles (dangles : Dangles graph roots) :
    ∃ reference, accept graph roots = .error (.dangling reference) := by
  cases checked : graph.validate with
  | error cause =>
    have refused : accept graph roots = .error cause := by
      rw [accept, checked]
      rfl
    unfold Graph.validate at checked
    split at checked <;> cases checked
    exact ⟨_, refused⟩
  | ok accepted =>
    have forest : accept graph roots = graph.flatten roots := by
      rw [accept, checked]
      rfl
    rw [forest]
    cases flattened : graph.flatten roots with
    | error cause =>
      obtain ⟨root, rfl⟩ := Graph.blames_of_flatten flattened
      exact ⟨.root root, rfl⟩
    | ok forest =>
      have valid := Graph.validate_ok_iff.mp checked
      exact absurd dangles (not_dangles_iff.mpr ⟨valid, Graph.roots_of_flatten flattened⟩)

/-! ### What is not asked -/

/-- The entity with another way to combine names, if it has any. -/
def withoutCombine (entity : Entity) : Entity :=
  { entity with
    source := match entity.source with
      | .dependent function dependencies _ => .dependent function dependencies fun _ => ""
      | source => source }

/-- The graphs are the same but for the naming functions and the ways to combine names. -/
structure SameHandles (graph other : Graph) : Prop where
  namespaces : other.namespaces = graph.namespaces
  entities : other.entities.map withoutCombine = graph.entities.map withoutCombine
  functions : other.functions.size = graph.functions.size

/-- Where an entity dangles does not depend on how it combines names. -/
theorem firstDangling?_eq (graph : Graph) : graph.firstDangling? =
    (graph.namespaces.toList.findSome? (·.dangling? graph)).or
      ((graph.entities.map withoutCombine).toList.zipIdx.findSome? fun (entity, index) =>
        entity.dangling? ⟨index⟩ graph) := by
  have each (entity : Entity) (handle : EntityRef) :
      (withoutCombine entity).dangling? handle graph = entity.dangling? handle graph := by
    obtain ⟨home, name, _ | _ | _⟩ := entity <;> rfl
  rw [Graph.firstDangling?, Array.toList_map, List.zipIdx_map, List.findSome?_map]
  simp [Function.comp_def, each]

section
variable (same : SameHandles graph other)
include same

theorem SameHandles.namespace?_eq (handle : NamespaceRef) :
    other.namespace? handle = graph.namespace? handle := by
  rw [Graph.namespace?, Graph.namespace?, same.namespaces]

theorem SameHandles.isNone_function? (handle : FunctionRef) :
    (other.function? handle).isNone = (graph.function? handle).isNone := by
  rw [← Option.not_isSome, ← Option.not_isSome, Bool.not_inj_iff, Bool.eq_iff_iff,
    Graph.function?_isSome_iff, Graph.function?_isSome_iff, same.functions]

theorem SameHandles.isNone_entity? (handle : EntityRef) :
    (other.entity? handle).isNone = (graph.entity? handle).isNone := by
  have size : other.entities.size = graph.entities.size := by
    simpa using congrArg Array.size same.entities
  rw [← Option.not_isSome, ← Option.not_isSome, Bool.not_inj_iff, Bool.eq_iff_iff,
    Graph.entity?_isSome_iff, Graph.entity?_isSome_iff, size]

theorem SameHandles.validate_eq : other.validate = graph.validate := by
  have first : other.firstDangling? = graph.firstDangling? := by
    simp only [firstDangling?_eq, same.namespaces, same.entities, Namespace.dangling?,
      Entity.dangling?, same.namespace?_eq, same.isNone_function?, same.isNone_entity?]
  rw [Graph.validate, Graph.validate, first]

theorem SameHandles.accept_eq (roots : List NamespaceRef) :
    accept other roots = accept graph roots := by
  have forest : other.flatten roots = graph.flatten roots :=
    Graph.flatten_congr (fun handle => by rw [same.namespace?_eq]) roots
  rw [accept, accept, same.validate_eq, forest]

end

/-- **Validation is exact and sufficient.** Whatever the history, the mode and the roots: a run is
refused for a dangling handle before any naming function is called exactly if a handle dangles.
Then it is refused in the same way whatever the naming functions and the combined names are, for
none of them is asked. And the run never indexes an arena out of range. -/
theorem validation_is_exact_and_sufficient (steps : List BuildStep) (guarded : Bool)
    (roots : List NamespaceRef) :
    ((∃ reference, (Graph.ofSteps steps).resolve guarded roots =
        .of (.error (.dangling reference))) ↔ Dangles (Graph.ofSteps steps) roots) ∧
    (Dangles (Graph.ofSteps steps) roots → ∀ other, SameHandles (Graph.ofSteps steps) other →
      other.resolve guarded roots = (Graph.ofSteps steps).resolve guarded roots) ∧
    Strict.resolve (Graph.ofSteps steps) guarded roots =
      .ran ((Graph.ofSteps steps).resolve guarded roots) := by
  have linked := Graph.linked_ofSteps steps
  generalize Graph.ofSteps steps = graph at linked
  refine ⟨⟨?_, ?_⟩, ?_, Strict.resolve_eq guarded linked roots⟩
  · rintro ⟨reference, refused⟩
    by_contra none
    obtain ⟨valid, known⟩ := not_dangles_iff.mp none
    have failed : (graph.resolve guarded roots).result = .error (.dangling reference) := by
      rw [refused, Logged.result_of]
    obtain ⟨earlier, call, logged, -⟩ := Attribution.resolve_blames linked valid known failed
    rw [refused, Logged.calls_of] at logged
    simp at logged
  · intro dangles
    obtain ⟨reference, refused⟩ := refused_of_dangles dangles
    exact ⟨reference, resolve_of_refused refused⟩
  · intro dangles other same
    obtain ⟨reference, refused⟩ := refused_of_dangles dangles
    rw [resolve_of_refused refused, resolve_of_refused ((same.accept_eq roots).trans refused)]

/-- An entity whose naming function was never added. -/
example : (Graph.ofSteps [.space { name := "types" }, .simple ⟨0⟩ ⟨0⟩ "Node"]).resolve true [⟨0⟩] =
    .of (.error (.dangling (.function ⟨"Node", ⟨0⟩⟩ ⟨0⟩))) := rfl

end NameAssignment.Dangling
