import NameAssignment.Proofs.Attribution

/-! Where a name comes from. A fixed name is the one that was given. Any other was given by a single
call, to the naming function of its entity, and for what the entity still proposes when everything
is named: an entity made from others is made from the names that they end with. -/
namespace NameAssignment.Provenance
open NamingState Attribution

variable {graph : Graph} {names : Names} {handle : EntityRef} {entity : Entity} {call : NamingCall}

/-- A name comes from a call for a batch in which its entity stands at `position`. -/
structure Origin (graph : Graph) (names : Names) (handle : EntityRef) (entity : Entity)
    (name : String) (call : NamingCall) (position : Nat) : Prop where
  home : call.home = entity.home
  /-- The batch lists its members as their namespace does. -/
  ordered : call.batch.members.Sublist (graph.members entity.home)
  place : call.batch.members[position]? = some handle
  function : entity.function? = some call.batch.function
  proposal : entity.propose handle names = .ok call.batch.proposed
  /-- As many names were answered as the batch has members, and this one at the same position. -/
  answered : ∃ answer, Replies graph call (.ok answer) ∧
    answer.length = call.batch.members.length ∧ answer[position]? = some name
  /-- A name that was counted is the proposal, fillers and, in a batch of several, the position. -/
  counted : ∀ filler, graph.function? call.batch.function = some (Counting.names filler) →
    name = call.batch.proposed ++ Counting.run filler (Counting.runLength filler
      call.batch.proposed call.forbidden call.batch.members.length) ++
        if 1 < call.batch.members.length then toString position else ""

/-- Among calls that name nobody twice, one that names an entity is the only one. -/
theorem only_call (once : ((earlier ++ call :: later).flatMap (·.batch.members)).Nodup)
    (listed : handle ∈ call.batch.members) :
    ∀ other ∈ earlier ++ later, handle ∉ other.batch.members := by
  have front : ((earlier ++ call :: later).flatMap (·.batch.members)).Perm
      (call.batch.members ++ (earlier ++ later).flatMap (·.batch.members)) :=
    List.perm_middle.flatMap_right _
  have apart := (List.nodup_append.mp (front.nodup_iff.mp once)).2.2
  intro other made again
  exact apart handle listed handle (List.mem_flatMap.mpr ⟨other, made, again⟩) rfl

/-- The name of a member of a served batch is the one at its position in the answer. -/
theorem origin_of_served (linked : graph.Linked) (served : Served graph names call answer)
    (listed : handle ∈ call.batch.members) (found : graph.entity? handle = some entity)
    (held : names.get? handle = some name) :
    ∃ position, Origin graph names handle entity name call position := by
  obtain ⟨position, place⟩ := List.mem_iff_getElem?.mp listed
  have home : entity.home = call.home :=
    linked.home_eq (served.ordered.subset listed) found
  obtain ⟨same, again, function, proposal⟩ := served.asks handle listed
  obtain rfl : entity = same := Option.some.inj (found.symm.trans again)
  have answered : answer[position]? = some name := by
    obtain ⟨below, -⟩ := List.getElem?_eq_some_iff.mp place
    have within : position < answer.length := by
      rw [served.count]
      exact below
    have there : answer[position]? = some answer[position] := List.getElem?_eq_getElem within
    have pair : (handle, answer[position]) ∈ call.batch.members.zip answer :=
      List.mem_of_getElem? (List.getElem?_zip_eq_some.mpr ⟨place, there⟩)
    have given := served.given pair
    rw [held] at given
    rw [there, Option.some.inj given]
  refine ⟨position, home.symm, home ▸ served.ordered, place, function, proposal,
    ⟨answer, served.asked, served.count, answered⟩, ?_⟩
  intro filler counts
  obtain ⟨asked, known, replied⟩ := served.asked
  obtain rfl : asked = Counting.names filler := Option.some.inj (known.symm.trans counts)
  rw [Counting.eq_batch_of_names_ok replied] at answered
  exact Counting.eq_of_getElem?_batch answered

/-- **Every name has one origin.** In a resolution a fixed entity that is named has its own name.
Any other that is named stands in the batch of exactly one call, and its name is what this call
answered at its place, for the proposal that it makes from the final names. -/
theorem every_name_has_one_origin (steps : List BuildStep) (guarded : Bool)
    (roots : List NamespaceRef) (resolution : Resolution)
    (ran : ((Graph.ofSteps steps).resolve guarded roots).result = .ok resolution) :
    (∀ handle entity literal name, (Graph.ofSteps steps).entity? handle = some entity →
      entity.source = .fixed literal → resolution.names.get? handle = some name →
      name = literal) ∧
    ∀ handle entity name, (Graph.ofSteps steps).entity? handle = some entity →
      entity.isFixed = false → resolution.names.get? handle = some name →
      ∃ earlier call later position,
        ((Graph.ofSteps steps).resolve guarded roots).calls = earlier ++ call :: later ∧
        (∀ other ∈ earlier ++ later, handle ∉ other.batch.members) ∧
        Origin (Graph.ofSteps steps) resolution.names handle entity name call position := by
  have linked := Graph.linked_ofSteps steps
  obtain ⟨forest, fixed, final, course⟩ := Graph.resolve_course linked ran
  have ledger := Graph.resolve_ledger linked course ran
  constructor
  · intro handle entity literal name found source held
    rw [course.names] at held
    have orderly := course.orderly linked
    have placed := orderly.placed ((final.names.contains_eq_true_iff handle).mpr ⟨name, held⟩)
    have given := orderly.literal placed found source
    rw [held] at given
    exact Option.some.inj given
  · intro handle entity name found free held
    rcases ledger.covered held with atStart | ⟨call, made, listed⟩
    · have named := (fixed.names.contains_eq_true_iff handle).mpr ⟨name, atStart⟩
      obtain ⟨same, again, isFixed⟩ := course.holdsFixed.isFixed named
      obtain rfl : entity = same := Option.some.inj (found.symm.trans again)
      rw [free] at isFixed
      cases isFixed
    · obtain ⟨answer, served⟩ := ledger.served call made
      obtain ⟨position, origin⟩ := origin_of_served linked served listed found held
      obtain ⟨earlier, later, split⟩ := List.append_of_mem made
      have once := ledger.once
      rw [split] at once
      exact ⟨earlier, call, later, position, split, only_call once listed, origin⟩

/-- Two entities that ask for one name, a third made from them, and a fixed name in the way. -/
def couple : List BuildStep := [
  .function (Counting.names '_'),
  .space { name := "types" },
  .simple ⟨0⟩ ⟨0⟩ "Foo",
  .simple ⟨0⟩ ⟨0⟩ "Foo",
  .dependent ⟨0⟩ ⟨0⟩ "couple" [⟨1⟩, ⟨0⟩, ⟨1⟩] String.join,
  .fixed ⟨0⟩ "Foo0"]

theorem couple_is_made_from_final_names : ∃ resolution,
    ((Graph.ofSteps couple).resolve true [⟨0⟩]).result = .ok resolution ∧
      resolution.names.get? ⟨1⟩ = some "Foo_1" ∧
      resolution.names.get? ⟨2⟩ = some "Foo_1Foo_0Foo_1" ∧
      ∃ earlier call later position,
        ((Graph.ofSteps couple).resolve true [⟨0⟩]).calls = earlier ++ call :: later ∧
        (∀ other ∈ earlier ++ later, ⟨2⟩ ∉ other.batch.members) ∧
        Origin (Graph.ofSteps couple) resolution.names ⟨2⟩
          ⟨⟨0⟩, "couple", .dependent ⟨0⟩ [⟨1⟩, ⟨0⟩, ⟨1⟩] String.join⟩ "Foo_1Foo_0Foo_1" call
            position := by
  obtain ⟨resolution, ran, shown⟩ := exists_ok_of_any
    ((Graph.ofSteps couple).resolve true [⟨0⟩]).result
    (fun resolution => resolution.names.get? ⟨1⟩ == some "Foo_1" &&
      resolution.names.get? ⟨2⟩ == some "Foo_1Foo_0Foo_1") (by decide +kernel)
  simp only [Bool.and_eq_true, beq_iff_eq] at shown
  refine ⟨resolution, ran, shown.1, shown.2, ?_⟩
  exact (every_name_has_one_origin couple true [⟨0⟩] resolution ran).2 ⟨2⟩ _ _ rfl rfl shown.2

end NameAssignment.Provenance
