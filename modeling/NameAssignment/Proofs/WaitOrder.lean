import Mathlib.Data.Fintype.EquivFin
import NameAssignment.Proofs.Attribution
import NameAssignment.Proofs.Building
import NameAssignment.Proofs.Waiting

/-! Which manifests can be named completely. Who waits for whom can be read off the graph, and a
guarded run of a manifest that builds leaves entities without a name exactly if some of them wait
for each other in a circle. -/
namespace NameAssignment.WaitOrder
open Relation Waiting

variable {graph : Graph} {plan : Plan} {forest : List NamespaceRef}

/-- An entity waits for its dependencies, and for all members of the other namespaces that its own
forbids. One with a fixed name waits for nothing. -/
inductive WaitsFor (graph : Graph) (waiting awaited : EntityRef) : Prop
  | dependency (found : graph.entity? waiting = some entity) (free : entity.isFixed = false)
      (needed : awaited ∈ entity.dependencies) : WaitsFor graph waiting awaited
  | avoided (found : graph.entity? waiting = some entity) (free : entity.isFixed = false)
      (forbids : graph.forbids entity.home space = true) (differ : space ≠ entity.home)
      (member : awaited ∈ graph.members space) : WaitsFor graph waiting awaited

/-- Nothing nameable is on a circle: the circle would go on through what it waits for. -/
theorem not_circular_of_nameable (linked : graph.Linked) (nameable : Nameable graph forest handle) :
    ¬ TransGen (WaitsFor graph) handle handle := by
  induction nameable with
  | @fixed space handle entity listed member found fixed =>
    intro circle
    obtain ⟨next, waits, -⟩ := TransGen.head'_iff.mp circle
    cases waits with
    | dependency again free _ | avoided again free _ _ _ =>
      obtain rfl : entity = _ := Option.some.inj (found.symm.trans again)
      rw [fixed] at free
      cases free
  | @made space handle entity listed member found free fed clear fedStraight clearStraight =>
    intro circle
    obtain ⟨next, waits, back⟩ := TransGen.head'_iff.mp circle
    have around : TransGen (WaitsFor graph) next next := .tail' back waits
    cases waits with
    | dependency again _ needed =>
      obtain rfl : entity = _ := Option.some.inj (found.symm.trans again)
      exact fedStraight next needed around
    | @avoided other avoided again _ forbids differ inside =>
      obtain rfl : entity = other := Option.some.inj (found.symm.trans again)
      have home := linked.home_eq member found
      rw [home] at forbids differ
      exact clearStraight avoided ((linked.forbids_iff _ _).mp forbids) differ next inside around

/-- Where nobody waits in a circle everything is nameable. There are finitely many entities, so the
induction can be on the wait order itself. -/
theorem nameable_of_acyclic (fulfils : graph.Fulfils plan)
    (flattened : graph.flatten plan.roots = .ok forest)
    (acyclic : ∀ entity, ¬ TransGen (WaitsFor graph) entity entity)
    (there : (graph.entity? handle).isSome = true) : Nameable graph forest handle := by
  have linked := fulfils.follows.linked
  let after (first second : Fin graph.entities.size) : Prop :=
    TransGen (WaitsFor graph) ⟨second⟩ ⟨first⟩
  have transitive : IsTrans _ after := ⟨fun _ _ _ early late => late.trans early⟩
  have irreflexive : Std.Irrefl after := ⟨fun entity => acyclic ⟨entity⟩⟩
  have founded : WellFounded after := Finite.wellFounded_of_trans_of_irrefl after
  suffices all : ∀ position : Fin graph.entities.size, Nameable graph forest ⟨position⟩ from
    all ⟨handle.index, Graph.entity?_isSome_iff.mp there⟩
  intro position
  induction position using founded.induction with
  | _ position ih =>
    have waited {awaited : EntityRef} (waits : WaitsFor graph ⟨position⟩ awaited)
        (present : (graph.entity? awaited).isSome = true) : Nameable graph forest awaited :=
      ih ⟨awaited.index, Graph.entity?_isSome_iff.mp present⟩ (.single waits)
    obtain ⟨entity, found⟩ := Option.isSome_iff_exists.mp
      (Graph.entity?_isSome_iff.mpr position.isLt : (graph.entity? ⟨position⟩).isSome = true)
    have member := fulfils.follows.housed found
    have listed : entity.home ∈ forest :=
      fulfils.covered flattened entity.home (fulfils.valid.home found)
    cases fixed : entity.isFixed with
    | true => exact .fixed listed member found fixed
    | false =>
      refine .made listed member found fixed ?_ ?_
      · intro dependency needed
        exact waited (.dependency found fixed needed) (fulfils.valid.dependency found _ needed)
      · intro avoided forbidden differ rival inside
        obtain ⟨other, present, -⟩ := linked.housed inside
        exact waited (.avoided found fixed ((linked.forbids_iff _ _).mpr forbidden) differ inside)
          (Option.isSome_of_eq_some present)

/-- If nobody is left without a name, everybody was nameable: nobody is outside the forest. -/
theorem nameable_of_complete (fulfils : graph.Fulfils plan)
    (course : graph.Course plan.roots forest fixed final resolution)
    (complete : resolution.unresolved = []) (found : graph.entity? handle = some entity) :
    Nameable graph forest handle := by
  have placed := fulfils.placed course.flattened found
  by_contra stuck
  have left := (mem_unresolved_iff fulfils.follows.linked course).mpr ⟨placed, stuck⟩
  rw [complete] at left
  cases left

/-- **A manifest is named completely exactly if nobody waits in a circle**, and a guarded run of one
that builds never fails. -/
theorem manifest_complete_iff_acyclic (manifest : Manifest) (filler : Char) (built : BuiltManifest)
    (ran : manifest.build filler = .ok built) :
    ∃ resolution, (built.resolve true).result = .ok resolution ∧
      (resolution.isComplete = true ↔
        ∀ entity, ¬ TransGen (WaitsFor built.graph) entity entity) := by
  obtain ⟨fulfils, roots⟩ := Manifest.build_fulfils ran
  have linked := fulfils.follows.linked
  have opened : built.resolve true = built.graph.resolve true (manifest.plan filler).roots := by
    rw [BuiltManifest.resolve, roots]
    rfl
  obtain ⟨resolution, resolved⟩ := Attribution.resolve_ok_of_reliable linked fulfils.valid
    fulfils.known fun _ _ found => fulfils.follows.reliable found
  refine ⟨resolution, by rw [opened, resolved], ?_⟩
  obtain ⟨forest, fixed, final, course⟩ := Graph.resolve_course linked resolved
  rw [Resolution.isComplete, List.isEmpty_iff]
  constructor
  · intro complete entity circle
    obtain ⟨next, waits, -⟩ := TransGen.head'_iff.mp circle
    have nameable : Nameable built.graph forest entity := by
      cases waits with
      | dependency found _ _ | avoided found _ _ _ _ =>
        exact nameable_of_complete fulfils course complete found
    exact not_circular_of_nameable linked nameable circle
  · intro acyclic
    apply List.eq_nil_iff_forall_not_mem.mpr
    intro entity left
    obtain ⟨placed, stuck⟩ := (mem_unresolved_iff linked course).mp left
    obtain ⟨space, -, member⟩ := List.mem_flatMap.mp placed
    obtain ⟨record, found, -⟩ := linked.housed member
    exact stuck (nameable_of_acyclic fulfils course.flattened acyclic
      (Option.isSome_of_eq_some found))

/-- Two namespaces that forbid each other. -/
def rivals : Manifest where
  functions := .empty
  namespaces := [
    { name := "types", forbidden := ["values"], members := [⟨"T", .simple "x" none⟩] },
    { name := "values", forbidden := ["types"], members := [⟨"v", .simple "x" none⟩] }]

/-- Neither can go first, so neither is named, and the circle runs through both namespaces. -/
theorem rivals_wait_in_a_circle : ∃ built, rivals.build '_' = .ok built ∧
    ∃ resolution, (built.resolve true).result = .ok resolution ∧ resolution.isComplete = false ∧
      ∃ entity, TransGen (WaitsFor built.graph) entity entity := by
  obtain ⟨built, ran, shown⟩ := exists_ok_of_any (rivals.build '_')
    (fun built => (built.resolve true).result.toOption.any fun resolution => !resolution.isComplete)
    (by decide +kernel)
  obtain ⟨resolution, resolved, complete⟩ := manifest_complete_iff_acyclic rivals '_' built ran
  have stalled : resolution.isComplete = false := by
    rw [resolved] at shown
    simpa [Except.toOption] using shown
  refine ⟨built, ran, resolution, resolved, stalled, ?_⟩
  by_contra straight
  rw [complete.mpr (not_exists.mp straight)] at stalled
  cases stalled

end NameAssignment.WaitOrder
