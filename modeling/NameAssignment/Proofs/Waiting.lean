import NameAssignment.Proofs.Rounds

/-! What can be named at all does not depend on how the rounds are scheduled. It is the least set
that has the fixed members of the forest and every member whose waits are in it, and a resolution
that succeeds names exactly that set. -/
namespace NameAssignment.Waiting
open NamingState

variable {graph other : Graph} {forest : List NamespaceRef} {state next : NamingState}

/-- What can be named in a forest. A fixed member waits for nothing. Any other waits for its
dependencies, and for all members of the other namespaces that its own forbids. -/
inductive Nameable (graph : Graph) (forest : List NamespaceRef) : EntityRef → Prop
  | fixed (listed : space ∈ forest) (member : handle ∈ graph.members space)
      (found : graph.entity? handle = some entity) (fixed : entity.isFixed = true) :
      Nameable graph forest handle
  | made (listed : space ∈ forest) (member : handle ∈ graph.members space)
      (found : graph.entity? handle = some entity) (free : entity.isFixed = false)
      (fed : ∀ dependency ∈ entity.dependencies, Nameable graph forest dependency)
      (clear : ∀ avoided ∈ graph.forbidden space, avoided ≠ space →
        ∀ rival ∈ graph.members avoided, Nameable graph forest rival) :
      Nameable graph forest handle

/-! ### Nothing else is named -/

/-- One assignment names something nameable, if everything named before was. -/
theorem nameable_advance
    (sound : ∀ entity, state.names.contains entity = true → Nameable graph forest entity)
    (step : Advances graph forest state next) :
    ∀ entity, next.names.contains entity = true → Nameable graph forest entity := by
  cases step with
  | @assign space handle name listed member eligible can unnamed unrivalled =>
    intro entity named
    rw [record, Table.contains_insert, Bool.or_eq_true, decide_eq_true_eq] at named
    rcases named with rfl | named
    · obtain ⟨chosen, found, free, ready⟩ := can
      refine .made listed member found free ?_ ?_
      · intro dependency needed
        exact sound dependency (List.all_eq_true.mp ready dependency needed)
      · intro avoided forbidden differ rival inside
        have full := isEligible_iff.mp eligible avoided forbidden differ
        exact sound rival (List.all_eq_true.mp full rival inside)
    · exact sound entity named

theorem nameable_of_holdsFixed (holds : state.HoldsFixed graph (forest.flatMap graph.members))
    (entity : EntityRef) (named : state.names.contains entity = true) :
    Nameable graph forest entity := by
  obtain ⟨found, there, fixed⟩ := holds.isFixed named
  obtain ⟨space, listed, member⟩ := List.mem_flatMap.mp (holds.orderly.placed named)
  exact .fixed listed member there fixed

/-! ### Nothing is left out -/

/-- When no namespace qualifies any more, everything nameable is named. The induction is on why it
is nameable: its waits are over, so its namespace would qualify on its account. -/
theorem named_of_stuck (orderly : Orderly graph forest state)
    (stuck : graph.next? state.names forest = none) (nameable : Nameable graph forest handle) :
    state.names.contains handle = true := by
  induction nameable with
  | @fixed space handle entity listed member found fixed =>
    obtain ⟨name, source⟩ := Entity.isFixed_iff.mp fixed
    have held := orderly.literal (List.mem_flatMap.mpr ⟨space, listed, member⟩) found source
    exact (state.names.contains_eq_true_iff handle).mpr ⟨name, held⟩
  | @made space handle entity listed member found free fed clear fedNamed clearNamed =>
    have ready : entity.isReady state.names = true := List.all_eq_true.mpr fedNamed
    have eligible : graph.isEligible state.names space = true :=
      isEligible_iff.mpr fun avoided forbidden differ =>
        List.all_eq_true.mpr (clearNamed avoided forbidden differ)
    by_contra unnamed
    have chosen : handle ∈ graph.readyMembers state.names space :=
      Graph.mem_readyMembers.mpr ⟨member, by simpa using unnamed, entity, found, ready⟩
    rw [Graph.readyMembers_eq_nil stuck listed eligible] at chosen
    cases chosen

/-- The names at the end of a resolution are those of the nameable entities. -/
theorem named_iff (linked : graph.Linked)
    (course : graph.Course roots forest fixed final resolution) :
    final.names.contains handle = true ↔ Nameable graph forest handle := by
  have orderly := course.orderly linked
  constructor
  · intro named
    have sound := course.run.preserves
      (fun step sound => nameable_advance sound step) (nameable_of_holdsFixed course.holdsFixed)
    exact sound handle named
  · exact named_of_stuck orderly course.stuck

/-- The unresolved entities are the other members of the forest. -/
theorem mem_unresolved_iff (linked : graph.Linked)
    (course : graph.Course roots forest fixed final resolution) :
    handle ∈ resolution.unresolved ↔
      handle ∈ forest.flatMap graph.members ∧ ¬ Nameable graph forest handle := by
  rw [course.unresolved, ← named_iff linked course]
  simp [Graph.unnamed]

/-! ### What nameability depends on -/

/-- Said of two graphs that make their entities wait for the same. Their naming functions, proposals
and fixed names may differ. -/
structure WaitAlike (graph other : Graph) : Prop where
  members : ∀ space entity, entity ∈ graph.members space ↔ entity ∈ other.members space
  forbidden : ∀ space avoided, avoided ∈ graph.forbidden space ↔ avoided ∈ other.forbidden space
  entities : ∀ handle,
    (graph.entity? handle).map (fun entity => (entity.isFixed, entity.dependencies)) =
      (other.entity? handle).map fun entity => (entity.isFixed, entity.dependencies)

theorem WaitAlike.symm (alike : WaitAlike graph other) : WaitAlike other graph where
  members space entity := (alike.members space entity).symm
  forbidden space avoided := (alike.forbidden space avoided).symm
  entities handle := (alike.entities handle).symm

theorem WaitAlike.twin (alike : WaitAlike graph other)
    (found : graph.entity? handle = some entity) :
    ∃ twin, other.entity? handle = some twin ∧ twin.isFixed = entity.isFixed ∧
      twin.dependencies = entity.dependencies := by
  have same := alike.entities handle
  rw [found, Option.map_some, eq_comm, Option.map_eq_some_iff] at same
  obtain ⟨twin, there, equal⟩ := same
  exact ⟨twin, there, congrArg Prod.fst equal, congrArg Prod.snd equal⟩

/-- What is nameable stays so if the waits are the same, in whatever order the forest is listed. -/
theorem WaitAlike.nameable (alike : WaitAlike graph other)
    (reached : ∀ space, space ∈ forest → space ∈ elsewhere)
    (nameable : Nameable graph forest handle) : Nameable other elsewhere handle := by
  induction nameable with
  | @fixed space handle entity listed member found fixed =>
    obtain ⟨twin, there, sameFixed, -⟩ := alike.twin found
    exact .fixed (reached space listed) ((alike.members space handle).1 member) there
      (sameFixed.trans fixed)
  | @made space handle entity listed member found free fed clear fedThere clearThere =>
    obtain ⟨twin, there, sameFixed, sameDependencies⟩ := alike.twin found
    refine .made (reached space listed) ((alike.members space handle).1 member) there
      (sameFixed.trans free) ?_ ?_
    · rw [sameDependencies]
      exact fedThere
    · intro avoided forbidden differ rival inside
      exact clearThere avoided ((alike.forbidden space avoided).2 forbidden) differ rival
        ((alike.members avoided rival).2 inside)

/-- **What is named.** A resolution that succeeds names exactly the nameable entities of its forest,
and lists the other members once each in forest order. So any two resolutions that reach the same
namespaces, in whatever order, with whatever naming functions and in either mode, name the same
entities. -/
theorem resolution_names_the_nameable (steps : List BuildStep) (guarded : Bool)
    (roots : List NamespaceRef) (resolution : Resolution)
    (ran : ((Graph.ofSteps steps).resolve guarded roots).result = .ok resolution) :
    ∃ forest, (Graph.ofSteps steps).flatten roots = .ok forest ∧
      (∀ handle, resolution.names.contains handle = true ↔
        Nameable (Graph.ofSteps steps) forest handle) ∧
      resolution.unresolved.Sublist (forest.flatMap (Graph.ofSteps steps).members) ∧
      resolution.unresolved.Nodup ∧
      (∀ handle, handle ∈ resolution.unresolved ↔
        handle ∈ forest.flatMap (Graph.ofSteps steps).members ∧
          ¬ Nameable (Graph.ofSteps steps) forest handle) ∧
      ∀ (steps' : List BuildStep) (guarded' : Bool) (roots' forest' : List NamespaceRef)
        (resolution' : Resolution),
        ((Graph.ofSteps steps').resolve guarded' roots').result = .ok resolution' →
        (Graph.ofSteps steps').flatten roots' = .ok forest' →
        WaitAlike (Graph.ofSteps steps) (Graph.ofSteps steps') →
        (∀ space, space ∈ forest ↔ space ∈ forest') →
        ∀ handle, resolution'.names.contains handle = resolution.names.contains handle := by
  have linked := Graph.linked_ofSteps steps
  obtain ⟨forest, fixed, final, course⟩ := Graph.resolve_course linked ran
  have listed : resolution.unresolved.Sublist (forest.flatMap (Graph.ofSteps steps).members) := by
    rw [course.unresolved]
    exact List.filter_sublist
  have once := linked.nodup_flatMap_members (Graph.nodup_flatten course.flattened)
  refine ⟨forest, course.flattened, fun handle => ?_, listed, once.sublist listed,
    fun handle => mem_unresolved_iff linked course, ?_⟩
  · rw [course.names]
    exact named_iff linked course
  · intro steps' guarded' roots' forest' resolution' ran' flattened' alike reached handle
    have linked' := Graph.linked_ofSteps steps'
    obtain ⟨found', fixed', final', course'⟩ := Graph.resolve_course linked' ran'
    obtain rfl : forest' = found' := Except.ok.inj (flattened'.symm.trans course'.flattened)
    rw [Bool.eq_iff_iff, course.names, course'.names, named_iff linked course,
      named_iff linked' course']
    exact ⟨alike.symm.nameable fun space => (reached space).2,
      alike.nameable fun space => (reached space).1⟩

/-- One entity that waits for nothing, and two that wait for each other. -/
def circle : List BuildStep := [
  .function (Counting.names '_'),
  .space { name := "types" },
  .simple ⟨0⟩ ⟨0⟩ "Free",
  .dependent ⟨0⟩ ⟨0⟩ "a" [⟨2⟩] String.join,
  .dependent ⟨0⟩ ⟨0⟩ "b" [⟨1⟩] String.join]

theorem circle_is_not_nameable : ∃ resolution forest,
    ((Graph.ofSteps circle).resolve true [⟨0⟩]).result = .ok resolution ∧
      (Graph.ofSteps circle).flatten [⟨0⟩] = .ok forest ∧
      Nameable (Graph.ofSteps circle) forest ⟨0⟩ ∧ ¬ Nameable (Graph.ofSteps circle) forest ⟨1⟩ ∧
        ¬ Nameable (Graph.ofSteps circle) forest ⟨2⟩ := by
  obtain ⟨resolution, ran, shown⟩ := exists_ok_of_any
    ((Graph.ofSteps circle).resolve true [⟨0⟩]).result
    (fun resolution => resolution.names.contains ⟨0⟩ && resolution.unresolved == [⟨1⟩, ⟨2⟩])
    (by decide +kernel)
  simp only [Bool.and_eq_true, beq_iff_eq] at shown
  obtain ⟨forest, flattened, named, -, -, unresolved, -⟩ :=
    resolution_names_the_nameable circle true [⟨0⟩] resolution ran
  refine ⟨resolution, forest, ran, flattened, (named ⟨0⟩).1 shown.1, ?_, ?_⟩
  · exact ((unresolved ⟨1⟩).1 (by simp [shown.2])).2
  · exact ((unresolved ⟨2⟩).1 (by simp [shown.2])).2

end NameAssignment.Waiting
