import NameAssignment.Proofs.Attribution
import NameAssignment.Proofs.Collision

/-! Guarded and unguarded runs. Where all naming functions count, an unguarded run that meets no
conflict is the guarded run. A guarded call has more names to avoid, but they are held by siblings,
and a name that a sibling holds would have been a conflict; so the answer found without them avoids
them anyway, and counting finds the same one. -/
namespace NameAssignment.Modes
open NamingState

variable {graph : Graph} {forest : List NamespaceRef} {space : NamespaceRef} {state : NamingState}
  {ready : List EntityRef}

/-- Every naming function of the graph counts, each with a filler of its own. -/
def Counts (graph : Graph) : Prop :=
  ∀ handle function, graph.function? handle = some function →
    ∃ filler, function = Counting.names filler

theorem Counts.reliable (counts : Counts graph) (handle : FunctionRef) (function : NamingFunction)
    (found : graph.function? handle = some function) : function.Reliable := by
  obtain ⟨filler, rfl⟩ := counts handle function found
  exact Counting.reliable_names filler

/-- Beside what `narrow` forbids, `wide` forbids the names held in `space`, and no others. -/
def Widens (graph : Graph) (space : NamespaceRef) (names : Names) (narrow wide : NameSet) : Prop :=
  ∀ name, wide.contains name = true ↔
    narrow.contains name = true ∨ ∃ holder ∈ graph.members space, names.get? holder = some name

/-- So it is when a round begins in the two modes. -/
theorem widens_start (graph : Graph) (space : NamespaceRef) (names : Names) :
    Widens graph space names (graph.forbiddenNames names false space)
      (graph.forbiddenNames names true space) := by
  intro name
  rw [contains_forbiddenNames_iff, contains_forbiddenNames_iff]
  constructor
  · rintro ⟨other, listed | ⟨-, rfl⟩, held⟩
    · exact .inl ⟨other, .inl listed, held⟩
    · exact .inr held
  · rintro (⟨other, listed | ⟨unguarded, -⟩, held⟩ | held)
    · exact ⟨other, .inl listed, held⟩
    · cases unguarded
    · exact ⟨space, .inr ⟨rfl, rfl⟩, held⟩

/-! ### A batch -/

/-- A name that a member has been given without a conflict was not held in its namespace before. -/
theorem not_held_by_sibling (linked : graph.Linked) {before after : NamingState}
    (apart : Collision.Apart graph after) (due : Due graph forest space ready before.names)
    (keeps : Keeps before.names after.names) (fresh : before.names.get? entity = none)
    (chosen : entity ∈ ready) (given : after.names.get? entity = some name)
    (member : holder ∈ graph.members space) : before.names.get? holder ≠ some name := by
  intro held
  have differ : entity ≠ holder := by
    rintro rfl
    rw [fresh] at held
    cases held
  obtain ⟨self, found, free, -⟩ := due.can entity chosen
  obtain ⟨other, there, home⟩ := linked.housed member
  have sibling : other.home = self.home :=
    home.trans (linked.home_eq (due.member entity chosen) found).symm
  exact apart differ found free there (.inl sibling) given (keeps held)

/-- A batch that is named without a guard is named alike with one. -/
theorem nameBatch_agrees (linked : graph.Linked) (counts : Counts graph) {start : NamingState}
    {before after : NamingState × NameSet} {batch : Batch}
    (guarding : Guarding graph forest false space ready start (batch :: rest) before)
    (apart : Collision.Apart graph after.1)
    (widens : Widens graph space before.1.names before.2 wide)
    (ran : (nameBatch graph false space before batch).result = .ok after) :
    ∃ wider, (nameBatch graph true space (before.1, wide) batch).result = .ok (after.1, wider) ∧
      Widens graph space after.1.names after.2 wider := by
  obtain ⟨answer, done⟩ := nameBatch_ok ran
  have due := guarding.underway.due
  have inside := guarding.underway.inside batch List.mem_cons_self
  obtain ⟨run, adds, -⟩ := done.run due inside
  obtain ⟨function, found, replied⟩ := done.asked
  obtain ⟨count, distinct, allowed⟩ := NamingFunction.audit_eq_ok_iff.mp done.audited
  have avoided : ∀ name ∈ answer, wide.contains name = false := by
    intro name listed
    obtain ⟨entity, pair⟩ := exists_member_of_mem count listed
    have here := (List.of_mem_zip pair).1
    have fresh : before.1.names.get? entity = none := by
      apply guarding.fresh
      rw [List.flatMap_cons]
      exact List.mem_append_left _ here
    cases held : wide.contains name with
    | false => rfl
    | true =>
      rcases (widens name).mp held with forbidden | ⟨holder, member, holds⟩
      · rw [allowed name listed] at forbidden
        cases forbidden
      · exact absurd holds (not_held_by_sibling linked apart due run.keeps fresh
          (inside entity here) (adds.mpr (.inr pair)) member)
  obtain ⟨filler, rfl⟩ := counts _ _ found
  have again : Counting.names filler batch.proposed wide batch.members.length = .ok answer :=
    Counting.names_of_forbids_more replied (fun name held => (widens name).mpr (.inl held)) avoided
  have audited : NamingFunction.audit batch.function batch.proposed wide batch.members.length
      answer = .ok () := NamingFunction.audit_eq_ok_iff.mpr ⟨count, distinct, avoided⟩
  refine ⟨wide.insertAll answer, nameBatch_of_answer found again audited done.assigned, ?_⟩
  · intro name
    have unchanged : after.2 = before.2 := done.forbidden
    rw [NameSet.contains_insertAll, Bool.or_eq_true, decide_eq_true_eq, widens name, unchanged]
    constructor
    · rintro (listed | forbidden | ⟨holder, member, held⟩)
      · obtain ⟨entity, pair⟩ := exists_member_of_mem count listed
        have member := due.member entity (inside entity (List.of_mem_zip pair).1)
        exact .inr ⟨entity, member, adds.mpr (.inr pair)⟩
      · exact .inl forbidden
      · exact .inr ⟨holder, member, run.keeps held⟩
    · rintro (forbidden | ⟨holder, member, held⟩)
      · exact .inr (.inl forbidden)
      · rcases adds.mp held with old | pair
        · exact .inr (.inr ⟨holder, member, old⟩)
        · exact .inl (List.of_mem_zip pair).2

/-! ### Rounds -/

/-- Two rounds side by side, between two batches: the guarded one has the same names and more to
avoid. -/
structure Abreast (graph : Graph) (forest : List NamespaceRef) (space : NamespaceRef)
    (ready : List EntityRef) (start : NamingState) (batches : List Batch)
    (unguarded guarded : NamingState × NameSet) : Prop where
  guarding : Guarding graph forest false space ready start batches unguarded
  same : guarded.1 = unguarded.1
  widens : Widens graph space unguarded.1.names unguarded.2 guarded.2

/-- The guarded round keeps abreast. What the unguarded one has named is free of collisions, since
it is part of a run. -/
theorem Abreast.next (linked : graph.Linked) (counts : Counts graph) {start : NamingState}
    (orderly : Orderly graph forest start) (apart : Collision.Apart graph start)
    {before after twin : NamingState × NameSet}
    (abreast : Abreast graph forest space ready start (batch :: rest) before twin)
    (ran : (nameBatch graph false space before batch).result = .ok after) :
    ∃ next, (nameBatch graph true space twin batch).result = .ok next ∧
      Abreast graph forest space ready start rest after next := by
  obtain ⟨twinState, wide⟩ := twin
  obtain rfl : twinState = before.1 := abreast.same
  have guarding := abreast.guarding.next linked ran
  have apartNext := Collision.apart_reach linked orderly apart guarding.underway.run
  obtain ⟨wider, alike, widens⟩ :=
    nameBatch_agrees linked counts abreast.guarding apartNext abreast.widens ran
  exact ⟨(after.1, wider), alike, guarding, rfl, widens⟩

/-- A round that succeeds without a guard is the same with one. -/
theorem round_agrees (linked : graph.Linked) (counts : Counts graph)
    (orderly : Orderly graph forest state) (apart : Collision.Apart graph state)
    (picked : graph.next? state.names forest = some (space, ready))
    (ran : (round graph false state space ready).result = .ok named) :
    (round graph true state space ready).result = .ok named := by
  obtain ⟨due, -, -⟩ := orderly.due picked
  obtain ⟨batches, batched, divides⟩ := Graph.batches_of_canPropose due.can
  rw [round_eq_foldlM batched] at ran ⊢
  obtain ⟨last, folded, ran, -⟩ := Logged.bind_ok ran
  have begun : Abreast graph forest space ready state batches
      (state, graph.forbiddenNames state.names false space)
      (state, graph.forbiddenNames state.names true space) :=
    ⟨.begin linked orderly picked divides, rfl, widens_start graph space state.names⟩
  obtain ⟨other, followed, abreast⟩ :=
    Logged.foldlM_follows (Abreast graph forest space ready state)
      (fun abreast ran => abreast.next linked counts orderly apart ran) begun folded
  refine Logged.result_bind_eq_ok_iff.mpr ⟨other, followed, ?_⟩
  rw [abreast.same]
  exact ran

/-- A loop that ends without a guard ends alike with one, after as many rounds. -/
theorem rounds_agree (linked : graph.Linked) (counts : Counts graph)
    (orderly : Orderly graph forest state) (apart : Collision.Apart graph state)
    (ran : (rounds graph false forest fuel done state).result = .ok ended) :
    (rounds graph true forest fuel done state).result = .ok ended := by
  induction fuel generalizing state done with
  | zero => exact ran
  | succ fuel ih =>
    unfold rounds at ran ⊢
    cases picked : graph.next? state.names forest with
    | none =>
      simp only [picked] at ran ⊢
      exact ran
    | some choice =>
      obtain ⟨space, ready⟩ := choice
      simp only [picked] at ran ⊢
      obtain ⟨middle, here, later, -⟩ := Logged.bind_ok ran
      obtain ⟨due, -, -⟩ := orderly.due picked
      obtain ⟨run, -⟩ := round_run due here
      refine Logged.result_bind_eq_ok_iff.mpr
        ⟨middle, round_agrees linked counts orderly apart picked here, ?_⟩
      exact ih (orderly.reach linked run) (Collision.apart_reach linked orderly apart run) later

/-- An unguarded resolution that succeeds is the guarded one. -/
theorem resolve_agrees (linked : graph.Linked) (counts : Counts graph)
    (ran : (graph.resolve false roots).result = .ok resolution) :
    (graph.resolve true roots).result = .ok resolution := by
  obtain ⟨forest, fixed, final, course⟩ := Graph.resolve_course linked ran
  rw [Graph.resolve_eq_rounds course.valid course.flattened course.began] at ran ⊢
  obtain ⟨last, looped, ran, -⟩ := Logged.bind_ok ran
  have apart := Collision.apart_of_holdsFixed course.holdsFixed
  exact Logged.result_bind_eq_ok_iff.mpr
    ⟨last, rounds_agree linked counts course.holdsFixed.orderly apart looped, ran⟩

/-- **The modes agree unless there is a conflict.** On an accepted graph whose naming functions all
count, and from known roots, an unguarded run fails with a conflict, or both runs succeed with the
same names, the same entities left over and the same number of rounds. -/
theorem modes_agree_or_conflict (steps : List BuildStep) (roots : List NamespaceRef)
    (accepted : (Graph.ofSteps steps).validate = .ok ())
    (known : ∀ root ∈ roots, ((Graph.ofSteps steps).namespace? root).isSome = true)
    (counts : Counts (Graph.ofSteps steps)) :
    (∃ entity holder name, ((Graph.ofSteps steps).resolve false roots).result =
      .error (.nameTaken entity holder name)) ∨
    ∃ unguarded guarded, ((Graph.ofSteps steps).resolve false roots).result = .ok unguarded ∧
      ((Graph.ofSteps steps).resolve true roots).result = .ok guarded ∧
      guarded.names = unguarded.names ∧ guarded.unresolved = unguarded.unresolved ∧
      guarded.rounds = unguarded.rounds := by
  have linked := Graph.linked_ofSteps steps
  have valid := Graph.validate_ok_iff.mp accepted
  cases ended : ((Graph.ofSteps steps).resolve false roots).result with
  | ok resolution =>
    exact .inr ⟨resolution, resolution, rfl, resolve_agrees linked counts ended, rfl, rfl, rfl⟩
  | error cause =>
    obtain ⟨earlier, call, -, nonempty, blames⟩ :=
      Attribution.resolve_blames linked valid known ended
    obtain ⟨-, answer, entity, name, holder, self, other, rfl, -⟩ :=
      Attribution.taken_of_reliable nonempty (fun function => counts.reliable _ function) blames
    exact .inl ⟨_, _, _, rfl⟩

/-- Two siblings with different naming functions, of which one is in the way of a reserved word, and
a third made from them. -/
def household : List BuildStep := [
  .function (Counting.names '_'),
  .function (Counting.names 'x'),
  .keywords "keywords" ["type"],
  .space { name := "fields", forbidden := [⟨0⟩] },
  .simple ⟨1⟩ ⟨0⟩ "type",
  .simple ⟨1⟩ ⟨1⟩ "type",
  .dependent ⟨1⟩ ⟨1⟩ "both" [⟨1⟩, ⟨2⟩] String.join]

/-- Both modes need two rounds, and make the third from the other two. -/
theorem household_needs_no_guard : ∃ unguarded guarded,
    ((Graph.ofSteps household).resolve false [⟨0⟩, ⟨1⟩]).result = .ok unguarded ∧
      ((Graph.ofSteps household).resolve true [⟨0⟩, ⟨1⟩]).result = .ok guarded ∧
      guarded.names.get? ⟨3⟩ = some "type_typex" ∧ guarded.names = unguarded.names ∧
      guarded.unresolved = unguarded.unresolved ∧ guarded.rounds = unguarded.rounds ∧
      guarded.rounds = 2 := by
  obtain ⟨resolution, ran, shown⟩ := exists_ok_of_any
    ((Graph.ofSteps household).resolve false [⟨0⟩, ⟨1⟩]).result
    (fun resolution => resolution.names.get? ⟨3⟩ == some "type_typex" && resolution.rounds == 2)
    (by decide +kernel)
  simp only [Bool.and_eq_true, beq_iff_eq] at shown
  have counts : Counts (Graph.ofSteps household) := by
    intro handle function found
    have listed : function ∈ #[Counting.names '_', Counting.names 'x'] :=
      Array.mem_of_getElem? found
    rcases (by simpa using listed : function = Counting.names '_' ∨ function = Counting.names 'x')
      with rfl | rfl
    · exact ⟨'_', rfl⟩
    · exact ⟨'x', rfl⟩
  rcases modes_agree_or_conflict household [⟨0⟩, ⟨1⟩] (by decide +kernel) (by decide) counts with
    ⟨entity, holder, name, failed⟩ | ⟨unguarded, guarded, without, within, names, left, count⟩
  · rw [ran] at failed
    cases failed
  · rw [ran] at without
    cases without
    exact ⟨resolution, guarded, ran, within, names ▸ shown.1, names, left, count,
      count.trans shown.2⟩

end NameAssignment.Modes
