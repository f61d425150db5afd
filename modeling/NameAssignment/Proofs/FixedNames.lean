import NameAssignment.Proofs.Collision
import NameAssignment.Proofs.Counting
import NameAssignment.Proofs.Ledger

/-! Fixed names in a namespace that forbids others. Forbidding has a direction, and only an entity
that is being named looks around: a fixed one never does. So whether a fixed name is given again
depends on the namespace in which it is given, and not on what the namespace of the fixed entity
forbids. Nobody there is told of it unless that namespace forbids back. -/
namespace NameAssignment.FixedNames
open NamingState Collision

variable {graph : Graph} {forest roots : List NamespaceRef} {names : Names}

/-- Somebody whom an entity must avoid has the name. -/
def TakenAround (graph : Graph) (names : Names) (handle : EntityRef) (entity : Entity)
    (name : String) : Prop :=
  ∃ holder other, holder ≠ handle ∧ graph.entity? holder = some other ∧
    MustAvoid graph entity other ∧ names.get? holder = some name

/-- A name that is forbidden to a call for the namespace of an entity is taken around the entity, or
is its own in the end. -/
theorem takenAround_of_backed (linked : graph.Linked)
    (backed : Backed graph guarded entity.home names forbidden)
    (listed : forbidden.contains name = true) (handle : EntityRef) :
    names.get? handle = some name ∨ TakenAround graph names handle entity name := by
  obtain ⟨place, avoided, holder, member, held⟩ :=
    contains_forbiddenNames_iff.mp (backed name listed)
  obtain ⟨other, there, rfl⟩ := linked.housed member
  by_cases same : holder = handle
  · exact .inl (same ▸ held)
  · refine .inr ⟨holder, other, same, there, ?_, held⟩
    rcases avoided with forbidden | ⟨-, own⟩
    · exact .inr ((linked.forbids_iff _ _).mpr forbidden)
    · exact .inl own

/-- A name that is taken around an entity is not given to it. -/
theorem ne_of_takenAround {state : NamingState} (apart : Apart graph state)
    (found : graph.entity? handle = some entity) (free : entity.isFixed = false)
    (held : state.names.get? handle = some given)
    (taken : TakenAround graph state.names handle entity name) : given ≠ name := by
  obtain ⟨holder, other, differ, there, avoid, holds⟩ := taken
  rintro rfl
  exact apart differ.symm found free there avoid held holds

/-- A counting function that is asked for the name of one entity gives what the entity proposes,
unless that is taken around it. -/
theorem eq_proposed_of_not_takenAround (linked : graph.Linked)
    (served : Served graph names call answer)
    (backed : Backed graph guarded call.home names call.forbidden)
    (alone : call.batch.members = [handle])
    (counts : graph.function? call.batch.function = some (Counting.names filler))
    (found : graph.entity? handle = some entity) (held : names.get? handle = some given)
    (clear : ¬ TakenAround graph names handle entity call.batch.proposed) :
    given = call.batch.proposed := by
  have listed : handle ∈ call.batch.members := by simp [alone]
  rw [← linked.home_eq (served.ordered.subset listed) found] at backed
  cases forbidden : call.forbidden.contains call.batch.proposed with
  | true =>
    have own := (takenAround_of_backed linked backed forbidden handle).resolve_right clear
    exact Option.some.inj (held.symm.trans own)
  | false =>
    obtain ⟨function, known, replied⟩ := served.asked
    obtain rfl : function = Counting.names filler := Option.some.inj (known.symm.trans counts)
    rw [alone, List.length_singleton, Counting.names_of_allowed forbidden, Except.ok.injEq]
      at replied
    have pair : (handle, call.batch.proposed) ∈ call.batch.members.zip answer := by
      simp [alone, ← replied]
    exact Option.some.inj (held.symm.trans (served.given pair))

/-- **A fixed name is kept clear only by a namespace that forbids it.** Let the namespace of a fixed
entity `a` forbid another, and let `b` be an entity of that one whose name is made. The names that
are made in the namespace of `a` differ from the name of `b`. The name of `a` itself differs from it
if the namespace of `b` forbids back, and otherwise counts for nothing: where `b` alone asks a
counting function for the name of `a`, it gets that name exactly if nobody whom `b` must avoid has
it. -/
theorem fixed_name_is_kept_clear_by_its_avoiders (steps : List BuildStep) (guarded : Bool)
    (roots : List NamespaceRef) (resolution : Resolution)
    (ran : ((Graph.ofSteps steps).resolve guarded roots).result = .ok resolution)
    (a b : EntityRef) (first second : Entity) (literal nameB : String)
    (foundA : (Graph.ofSteps steps).entity? a = some first)
    (source : first.source = .fixed literal) (named : resolution.names.contains a = true)
    (foundB : (Graph.ofSteps steps).entity? b = some second) (free : second.isFixed = false)
    (heldB : resolution.names.get? b = some nameB) (differ : second.home ≠ first.home)
    (forbids : (Graph.ofSteps steps).forbids first.home second.home = true) :
    (∀ c third nameC, (Graph.ofSteps steps).entity? c = some third → third.home = first.home →
      third.isFixed = false → resolution.names.get? c = some nameC → nameC ≠ nameB) ∧
    ((Graph.ofSteps steps).forbids second.home first.home = true → literal ≠ nameB) ∧
    ∀ call ∈ ((Graph.ofSteps steps).resolve guarded roots).calls, call.batch.members = [b] →
      call.batch.proposed = literal →
      (∃ filler, (Graph.ofSteps steps).function? call.batch.function =
        some (Counting.names filler)) →
      (literal = nameB ↔
        ¬ TakenAround (Graph.ofSteps steps) resolution.names b second literal) := by
  have linked := Graph.linked_ofSteps steps
  obtain ⟨forest, start, final, course⟩ := Graph.resolve_course linked ran
  have apart := apart_reach linked course.holdsFixed.orderly
    (apart_of_holdsFixed course.holdsFixed) course.run
  have backed := Graph.resolve_calls
    (fun names call => Backed (Graph.ofSteps steps) guarded call.home names call.forbidden) linked
    (fun keeps backed => backed.mono keeps) course round_backed ran
  obtain ⟨-, -, -, served, -⟩ := Graph.resolve_ledger linked course ran
  rw [course.names] at *
  have heldA : final.names.get? a = some literal := by
    have orderly := course.orderly linked
    exact orderly.literal (orderly.placed named) foundA source
  refine ⟨?_, ?_, ?_⟩
  · intro c third nameC foundC home made heldC
    refine ne_of_takenAround apart foundC made heldC ⟨b, second, ?_, foundB, ?_, heldB⟩
    · rintro rfl
      rw [Option.some.inj (foundB.symm.trans foundC)] at differ
      exact differ home
    · rw [MustAvoid, home]
      exact .inr forbids
  · intro back
    refine (ne_of_takenAround apart foundB free heldB ⟨a, first, ?_, foundA, .inr back, heldA⟩).symm
    rintro rfl
    rw [Option.some.inj (foundA.symm.trans foundB)] at differ
    exact differ rfl
  · rintro call made alone rfl ⟨filler, counts⟩
    constructor
    · rintro rfl taken
      exact ne_of_takenAround apart foundB free heldB taken rfl
    · intro clear
      obtain ⟨answer, served⟩ := served call made
      exact (eq_proposed_of_not_takenAround linked served (backed call made) alone counts foundB
        heldB clear).symm

/-- Reserved words that are to stay clear of types and of values, and values that forbid back. -/
def oneWay : List BuildStep := [
  .function (Counting.names '_'),
  .space { name := "types" },
  .space { name := "reserved", forbidden := [⟨0⟩, ⟨2⟩] },
  .space { name := "values", forbidden := [⟨1⟩] },
  .fixed ⟨1⟩ "type",
  .simple ⟨0⟩ ⟨0⟩ "type",
  .simple ⟨2⟩ ⟨0⟩ "type"]

/-- A value that asks for the reserved word does not get it. A type gets it, for nobody around the
type has it. -/
theorem value_is_kept_clear : ∃ resolution type,
    ((Graph.ofSteps oneWay).resolve true [⟨0⟩, ⟨1⟩, ⟨2⟩]).result = .ok resolution ∧
      resolution.names.get? ⟨2⟩ = some "type_" ∧ "type" ≠ "type_" ∧
      (Graph.ofSteps oneWay).entity? ⟨1⟩ = some type ∧
      resolution.names.get? ⟨1⟩ = some "type" ∧
      ¬ TakenAround (Graph.ofSteps oneWay) resolution.names ⟨1⟩ type "type" := by
  obtain ⟨resolution, ran, shown⟩ := exists_ok_of_any
    ((Graph.ofSteps oneWay).resolve true [⟨0⟩, ⟨1⟩, ⟨2⟩]).result
    (fun resolution => resolution.names.contains ⟨0⟩ &&
      resolution.names.get? ⟨1⟩ == some "type" && resolution.names.get? ⟨2⟩ == some "type_")
    (by decide +kernel)
  simp only [Bool.and_eq_true, beq_iff_eq] at shown
  obtain ⟨⟨reserved, type⟩, value⟩ := shown
  have values := fixed_name_is_kept_clear_by_its_avoiders oneWay true [⟨0⟩, ⟨1⟩, ⟨2⟩] resolution ran
    ⟨0⟩ ⟨2⟩ _ _ "type" "type_" rfl rfl reserved rfl rfl value (by decide) (by decide +kernel)
  have types := fixed_name_is_kept_clear_by_its_avoiders oneWay true [⟨0⟩, ⟨1⟩, ⟨2⟩] resolution ran
    ⟨0⟩ ⟨1⟩ _ _ "type" "type" rfl rfl reserved rfl rfl type (by decide) (by decide +kernel)
  have made : ⟨⟨0⟩, ⟨⟨0⟩, "type", [⟨1⟩]⟩, .empty, _⟩ ∈
      ((Graph.ofSteps oneWay).resolve true [⟨0⟩, ⟨1⟩, ⟨2⟩]).calls :=
    List.mem_of_getElem? (i := 0) rfl
  exact ⟨resolution, _, ran, value, values.2.1 (by decide +kernel), rfl, type,
    (types.2.2 _ made rfl rfl ⟨'_', rfl⟩).mp rfl⟩

/-- So the type has the name of the reserved word, although the reserved words forbid the types. -/
theorem reserved_word_is_given_again : ∃ resolution reserved type,
    ((Graph.ofSteps oneWay).resolve true [⟨0⟩, ⟨1⟩, ⟨2⟩]).result = .ok resolution ∧
      (Graph.ofSteps oneWay).entity? ⟨0⟩ = some reserved ∧ reserved.isFixed = true ∧
      (Graph.ofSteps oneWay).entity? ⟨1⟩ = some type ∧ type.isFixed = false ∧
      type.home ≠ reserved.home ∧
      (Graph.ofSteps oneWay).forbids reserved.home type.home = true ∧
      resolution.names.get? ⟨0⟩ = some "type" ∧ resolution.names.get? ⟨1⟩ = some "type" := by
  obtain ⟨resolution, ran, shown⟩ := exists_ok_of_any
    ((Graph.ofSteps oneWay).resolve true [⟨0⟩, ⟨1⟩, ⟨2⟩]).result
    (fun resolution => resolution.names.get? ⟨0⟩ == some "type" &&
      resolution.names.get? ⟨1⟩ == some "type") (by decide +kernel)
  simp only [Bool.and_eq_true, beq_iff_eq] at shown
  exact ⟨resolution, _, _, ran, rfl, rfl, rfl, rfl, by decide, by decide +kernel, shown⟩

end NameAssignment.FixedNames
