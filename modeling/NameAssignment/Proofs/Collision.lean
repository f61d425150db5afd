import NameAssignment.Proofs.Rounds

/-! No collisions. A name that was made differs from every name in its own namespace and from every
name in a namespace that its own forbids, whichever of the two was given first. Only a name's own
assignment is checked; what is named later in a forbidden namespace cannot disturb it, because that
namespace was complete by then. -/
namespace NameAssignment.Collision
open NamingState

variable {graph : Graph} {forest : List NamespaceRef} {state next : NamingState}

/-- Said of two entities when the first must avoid the name of the second. -/
def MustAvoid (graph : Graph) (first second : Entity) : Prop :=
  second.home = first.home ∨ graph.forbids first.home second.home = true

/-- No entity with a name of its making shares it with one that it must avoid. -/
def Apart (graph : Graph) (state : NamingState) : Prop :=
  ∀ ⦃a b first second name⦄, a ≠ b → graph.entity? a = some first → first.isFixed = false →
    graph.entity? b = some second → MustAvoid graph first second →
    state.names.get? a = some name → state.names.get? b ≠ some name

/-- The new name is one that no entity to be avoided has. -/
theorem new_name_is_free (coherent : state.Coherent)
    (unrivalled : state.rivalHolder? graph a name = none) (differ : a ≠ b)
    (foundA : graph.entity? a = some first) (foundB : graph.entity? b = some second)
    (avoid : MustAvoid graph first second) : state.names.get? b ≠ some name := by
  intro held
  have rivals : areRivals graph a b = true :=
    areRivals_iff.mpr ⟨first, second, foundA, foundB, Ne.symm differ, avoid⟩
  rw [(rivalHolder?_eq_none_iff coherent).mp unrivalled b held] at rivals
  cases rivals

/-- An entity that `a` must avoid gets its name after `a` only within the namespace of `a`: another
namespace that is forbidden there has no member left to name. -/
theorem later_is_sibling (linked : graph.Linked) (orderly : Orderly graph forest state)
    (named : state.names.contains a = true) (foundA : graph.entity? a = some first)
    (free : first.isFixed = false) (avoid : MustAvoid graph first second)
    (member : b ∈ graph.members second.home) (unnamed : state.names.get? b = none) :
    second.home = first.home := by
  rcases avoid with same | forbidden
  · exact same
  · by_contra differ
    have listed := (linked.forbids_iff _ _).mp forbidden
    have full := orderly.settled named foundA free listed differ
    have there : state.names.contains b = true := List.all_eq_true.mp full b member
    rw [(state.names.contains_eq_false_iff b).mpr unnamed] at there
    cases there

/-- One assignment keeps names apart. -/
theorem apart_advance (linked : graph.Linked) (orderly : Orderly graph forest state)
    (apart : Apart graph state) (step : Advances graph forest state next) : Apart graph next := by
  cases step with
  | @assign space handle name listed member eligible can unnamed unrivalled =>
    obtain ⟨entity, found, home⟩ := linked.housed member
    intro a b first second given differ foundA free foundB avoid heldA
    rw [names_record] at heldA ⊢
    by_cases newA : handle = a
    · -- `a` is the one being named
      subst newA
      rw [if_pos rfl, Option.some.injEq] at heldA
      subst heldA
      rw [if_neg differ]
      exact new_name_is_free orderly.coherent unrivalled differ foundA foundB avoid
    · rw [if_neg newA] at heldA
      by_cases newB : handle = b
      · -- `b` is the one being named, and the check made for it looks at `a` as well
        subst newB
        have namedA := (state.names.contains_eq_true_iff a).mpr ⟨given, heldA⟩
        rw [found] at foundB
        cases foundB
        rw [← home] at member
        have sibling := later_is_sibling linked orderly namedA foundA free avoid member unnamed
        rw [if_pos rfl, ne_eq, Option.some.injEq]
        rintro rfl
        exact new_name_is_free orderly.coherent unrivalled newA found foundA (.inl sibling.symm)
          heldA
      · rw [if_neg newB]
        exact apart differ foundA free foundB avoid heldA

/-- A run keeps names apart. -/
theorem apart_reach (linked : graph.Linked) (orderly : Orderly graph forest state)
    (apart : Apart graph state) (run : Reaches graph forest state next) : Apart graph next := by
  induction run with
  | refl => exact apart
  | tail earlier step ih => exact apart_advance linked (orderly.reach linked earlier) ih step

/-- Fixed names alone are apart, for nothing was made. -/
theorem apart_of_holdsFixed (holds : state.HoldsFixed graph members) : Apart graph state := by
  intro a b first second name _ foundA free _ _ heldA
  obtain ⟨-, entity, found, source⟩ := holds.named.mp heldA
  rw [foundA] at found
  cases found
  simp [Entity.isFixed_iff.mpr ⟨_, source⟩] at free

/-- **Collision freedom.** Whatever the history, the naming functions, the roots and the mode: in a
resolution, a named entity whose name is not fixed has another name than every other named entity of
its namespace and of the namespaces that its own forbids. -/
theorem resolved_names_do_not_collide (steps : List BuildStep) (guarded : Bool)
    (roots : List NamespaceRef) (resolution : Resolution)
    (ran : ((Graph.ofSteps steps).resolve guarded roots).result = .ok resolution)
    (a b : EntityRef) (differ : a ≠ b) (first second : Entity) (nameA nameB : String)
    (foundA : (Graph.ofSteps steps).entity? a = some first) (free : first.isFixed = false)
    (foundB : (Graph.ofSteps steps).entity? b = some second)
    (avoid : second.home = first.home ∨
      (Graph.ofSteps steps).forbids first.home second.home = true)
    (heldA : resolution.names.get? a = some nameA) (heldB : resolution.names.get? b = some nameB) :
    nameA ≠ nameB := by
  have linked := Graph.linked_ofSteps steps
  obtain ⟨forest, fixed, final, course⟩ := Graph.resolve_course linked ran
  have apart := apart_reach linked course.holdsFixed.orderly
    (apart_of_holdsFixed course.holdsFixed) course.run
  rw [course.names] at heldA heldB
  rintro rfl
  exact apart differ foundA free foundB avoid heldA heldB

/-- A reserved word, and a class and its field that both ask for it. -/
def reservedWord : List BuildStep := [
  .function (Counting.names '_'),
  .keywords "keywords" ["type"],
  .space { name := "classes", forbidden := [⟨0⟩] },
  .space { name := "fields", parent := some ⟨1⟩, forbidden := [⟨0⟩, ⟨1⟩] },
  .simple ⟨2⟩ ⟨0⟩ "type",
  .simple ⟨1⟩ ⟨0⟩ "type"]

theorem field_avoids_its_class : ∃ resolution,
    ((Graph.ofSteps reservedWord).resolve false [⟨0⟩, ⟨1⟩]).result = .ok resolution ∧
      resolution.names.get? ⟨1⟩ = some "type__" ∧ resolution.names.get? ⟨2⟩ = some "type_" ∧
        "type__" ≠ "type_" := by
  obtain ⟨resolution, ran, shown⟩ := exists_ok_of_any
    ((Graph.ofSteps reservedWord).resolve false [⟨0⟩, ⟨1⟩]).result
    (fun resolution => resolution.names.get? ⟨1⟩ == some "type__" &&
      resolution.names.get? ⟨2⟩ == some "type_") (by decide +kernel)
  simp only [Bool.and_eq_true, beq_iff_eq] at shown
  refine ⟨resolution, ran, shown.1, shown.2, ?_⟩
  exact resolved_names_do_not_collide reservedWord false [⟨0⟩, ⟨1⟩] resolution ran ⟨1⟩ ⟨2⟩
    (by decide) _ _ "type__" "type_" rfl rfl rfl (by decide +kernel) shown.1 shown.2

end NameAssignment.Collision
