import NameAssignment.Proofs.Assignment
import NameAssignment.Proofs.Forest
import NameAssignment.Proofs.Outcome

/-! Rounds name at least one member each, so the loop ends by itself and not because its fuel is
spent. A resolution that succeeds is a run of single assignments from the fixed names to a state in
which no namespace qualifies for another round. -/
namespace NameAssignment

variable {graph : Graph} {forest : List NamespaceRef}

namespace Graph
variable {names : Names}

/-! ### What is picked -/

theorem mem_readyMembers {space : NamespaceRef} {member : EntityRef} :
    member ∈ graph.readyMembers names space ↔ member ∈ graph.members space ∧
      names.contains member = false ∧
        ∃ entity, graph.entity? member = some entity ∧ entity.isReady names = true := by
  unfold readyMembers
  rw [List.mem_filter]
  cases graph.entity? member <;> simp

/-- The namespace picked is an eligible one of the forest, and its ready members go with it. -/
theorem of_next?_eq_some (picked : graph.next? names forest = some (space, ready)) :
    space ∈ forest ∧ graph.isEligible names space = true ∧
      ready = graph.readyMembers names space ∧ ready ≠ [] := by
  obtain ⟨chosen, listed, choice⟩ := List.exists_of_findSome?_eq_some picked
  dsimp only at choice
  split at choice
  · rename_i qualifies
    cases choice
    simp only [Bool.and_eq_true, Bool.not_eq_true', List.isEmpty_eq_false_iff] at qualifies
    exact ⟨listed, qualifies.1, rfl, qualifies.2⟩
  · cases choice

/-- If none is picked, an eligible namespace of the forest has no ready member. -/
theorem readyMembers_eq_nil (stuck : graph.next? names forest = none) {space : NamespaceRef}
    (listed : space ∈ forest) (eligible : graph.isEligible names space = true) :
    graph.readyMembers names space = [] := by
  have refused := List.findSome?_eq_none_iff.mp stuck space listed
  simpa [eligible] using refused

end Graph

namespace NamingState
variable {state named : NamingState} {guarded : Bool} {space : NamespaceRef}
  {ready : List EntityRef} {answer : List String}

/-- What makes `ready` the members that a round of `space` names. It stays true while they are being
named. -/
structure Due (graph : Graph) (forest : List NamespaceRef) (space : NamespaceRef)
    (ready : List EntityRef) (names : Names) : Prop where
  listed : space ∈ forest
  eligible : graph.isEligible names space = true
  member : ∀ entity ∈ ready, entity ∈ graph.members space
  can : ∀ entity ∈ ready, graph.CanPropose names entity

theorem Due.mono {before after : Names} (due : Due graph forest space ready before)
    (keeps : Keeps before after) : Due graph forest space ready after where
  listed := due.listed
  eligible := keeps.isEligible due.eligible
  member := due.member
  can entity listed := keeps.canPropose (due.can entity listed)

/-- What is picked in an orderly state is due, and no part of it is named yet. Fixed members are
never picked, for they are all named. -/
theorem Orderly.due (orderly : Orderly graph forest state)
    (picked : graph.next? state.names forest = some (space, ready)) :
    Due graph forest space ready state.names ∧ ready ≠ [] ∧
      ∀ member ∈ ready, state.names.get? member = none := by
  obtain ⟨listed, eligible, rfl, nonempty⟩ := Graph.of_next?_eq_some picked
  have unnamed (member : EntityRef) (inside : member ∈ graph.readyMembers state.names space) :
      state.names.get? member = none :=
    (state.names.contains_eq_false_iff member).mp (Graph.mem_readyMembers.mp inside).2.1
  refine ⟨⟨listed, eligible, ?_, ?_⟩, nonempty, unnamed⟩
  · exact fun entity inside => (Graph.mem_readyMembers.mp inside).1
  · intro member inside
    obtain ⟨home, -, entity, found, ready⟩ := Graph.mem_readyMembers.mp inside
    refine ⟨entity, found, ?_, ready⟩
    by_contra fixed
    obtain ⟨name, source⟩ := Entity.isFixed_iff.mp (eq_true_of_ne_false fixed)
    have held := orderly.literal (List.mem_flatMap.mpr ⟨space, listed, home⟩) found source
    rw [unnamed member inside] at held
    cases held

/-! ### A batch -/

/-- Assigning a list of pairs is a run, and it adds exactly the pairs. -/
theorem assignAll_run (due : Due graph forest space ready state.names)
    (inside : ∀ pair ∈ pairs, pair.1 ∈ ready) (ran : assignAll graph state pairs = .ok named) :
    Reaches graph forest state named ∧ ∀ {entity name}, named.names.get? entity = some name ↔
      state.names.get? entity = some name ∨ (entity, name) ∈ pairs := by
  induction pairs generalizing state with
  | nil =>
    cases ran
    exact ⟨.refl, by simp⟩
  | cons pair rest ih =>
    obtain ⟨entity, name⟩ := pair
    simp only [assignAll] at ran
    cases assigned : state.assign graph entity name with
    | error cause => simp [assigned] at ran
    | ok middle =>
      simp only [assigned] at ran
      obtain ⟨unnamed, unrivalled, rfl⟩ := assign_ok_iff.mp assigned
      have chosen := inside (entity, name) List.mem_cons_self
      have step : Advances graph forest state (state.record entity name) :=
        .assign due.listed (due.member entity chosen) due.eligible (due.can entity chosen) unnamed
          unrivalled
      obtain ⟨run, adds⟩ := ih (due.mono step.keeps)
        (fun pair later => inside pair (List.mem_cons_of_mem _ later)) ran
      refine ⟨(Relation.ReflTransGen.single step).trans run, ?_⟩
      intro other given
      rw [adds, names_record, List.mem_cons]
      by_cases same : entity = other
      · subst same
        simp [unnamed, eq_comm]
      · simp [same, Ne.symm same]

/-- Where there is a name for each member, every member has a partner. -/
theorem exists_name_of_mem {members : List EntityRef} (count : answer.length = members.length)
    (listed : member ∈ members) : ∃ name, (member, name) ∈ members.zip answer := by
  have firsts : (members.zip answer).map Prod.fst = members :=
    List.map_fst_zip (Nat.le_of_eq count.symm)
  rw [← firsts] at listed
  obtain ⟨⟨same, name⟩, pair, rfl⟩ := List.mem_map.mp listed
  exact ⟨name, pair⟩

/-- And so has every name. -/
theorem exists_member_of_mem {members : List EntityRef} (count : answer.length = members.length)
    (listed : name ∈ answer) : ∃ member, (member, name) ∈ members.zip answer := by
  have seconds : (members.zip answer).map Prod.snd = answer :=
    List.map_snd_zip (Nat.le_of_eq count)
  rw [← seconds] at listed
  obtain ⟨⟨member, same⟩, pair, rfl⟩ := List.mem_map.mp listed
  exact ⟨member, pair⟩

/-- What a batch that is named has gone through. -/
structure BatchNamed (graph : Graph) (guarded : Bool) (space : NamespaceRef)
    (before after : NamingState × NameSet) (batch : Batch) (answer : List String) : Prop where
  asked : ∃ function, graph.function? batch.function = some function ∧
    function batch.proposed before.2 batch.members.length = .ok answer
  audited : NamingFunction.audit batch.function batch.proposed before.2 batch.members.length
    answer = .ok ()
  assigned : assignAll graph before.1 (batch.members.zip answer) = .ok after.1
  forbidden : after.2 = if guarded then before.2.insertAll answer else before.2
  logged : (nameBatch graph guarded space before batch).calls =
    [⟨space, batch, before.2, before.1.names⟩]

/-- Naming a batch makes one call, whatever comes of it, or none if there is nobody to call. -/
theorem calls_nameBatch (graph : Graph) (guarded : Bool) (space : NamespaceRef)
    (current : NamingState × NameSet) (batch : Batch) :
    (nameBatch graph guarded space current batch).calls = [] ∨
      (nameBatch graph guarded space current batch).calls =
        [⟨space, batch, current.2, current.1.names⟩] := by
  cases found : graph.function? batch.function with
  | none => exact .inl (by simp [nameBatch, found])
  | some function => exact .inr (by simp [nameBatch, found, Logged.call])

theorem nameBatch_ok {before after : NamingState × NameSet} {batch : Batch}
    (ran : (nameBatch graph guarded space before batch).result = .ok after) :
    ∃ answer, BatchNamed graph guarded space before after batch answer := by
  cases found : graph.function? batch.function with
  | none => simp [nameBatch, found] at ran
  | some function =>
    have logged : (nameBatch graph guarded space before batch).calls =
        [⟨space, batch, before.2, before.1.names⟩] := by
      simp [nameBatch, found, Logged.call]
    simp only [nameBatch, found, Logged.call] at ran
    obtain ⟨answer, answered, ran⟩ := except_bind_ok ran
    obtain ⟨⟨⟩, audited, ran⟩ := except_bind_ok ran
    obtain ⟨final, assigned, ran⟩ := except_bind_ok ran
    cases ran
    exact ⟨answer, ⟨function, found, answered⟩, audited, assigned, rfl, logged⟩

/-- A batch is named if it is answered and the answer passes and can be assigned. -/
theorem nameBatch_of_answer {before : NamingState × NameSet} {batch : Batch}
    (found : graph.function? batch.function = some function)
    (answered : function batch.proposed before.2 batch.members.length = .ok answer)
    (audited : NamingFunction.audit batch.function batch.proposed before.2 batch.members.length
      answer = .ok ())
    (assigned : assignAll graph before.1 (batch.members.zip answer) = .ok named) :
    (nameBatch graph guarded space before batch).result =
      .ok (named, if guarded then before.2.insertAll answer else before.2) := by
  simp only [nameBatch, found, Logged.call, answered, audited, assigned, bind, Except.bind, pure,
    Except.pure]

/-- Naming a batch is a run that names all of its members. -/
theorem BatchNamed.run {before after : NamingState × NameSet} {batch : Batch}
    (done : BatchNamed graph guarded space before after batch answer)
    (due : Due graph forest space ready before.1.names)
    (inside : ∀ member ∈ batch.members, member ∈ ready) :
    Reaches graph forest before.1 after.1 ∧
      (∀ {entity name}, after.1.names.get? entity = some name ↔
        before.1.names.get? entity = some name ∨ (entity, name) ∈ batch.members.zip answer) ∧
      ∀ member ∈ batch.members, after.1.names.contains member = true := by
  have within : ∀ pair ∈ batch.members.zip answer, pair.1 ∈ ready :=
    fun pair zipped => inside pair.1 (List.of_mem_zip zipped).1
  obtain ⟨run, adds⟩ := assignAll_run due within done.assigned
  refine ⟨run, adds, fun member listed => ?_⟩
  have count := (NamingFunction.audit_eq_ok_iff.mp done.audited).1
  obtain ⟨name, pair⟩ := exists_name_of_mem count listed
  exact (after.1.names.contains_eq_true_iff member).mpr ⟨name, adds.mpr (.inr pair)⟩

/-! ### A round -/

/-- A round is its batches in a row. -/
theorem round_eq_foldlM (batched : graph.batches state.names ready = .ok batches) :
    round graph guarded state space ready =
      (batches.foldlM (nameBatch graph guarded space)
        (state, graph.forbiddenNames state.names guarded space)) >>= fun last => pure last.1 := by
  unfold round
  rw [batched]
  rfl

/-- Between two batches of a round: what has been done is a run, and whoever has no name yet is in a
batch still to come. -/
structure Underway (graph : Graph) (forest : List NamespaceRef) (space : NamespaceRef)
    (ready : List EntityRef) (start : NamingState) (batches : List Batch) (state : NamingState) :
    Prop where
  run : Reaches graph forest start state
  due : Due graph forest space ready state.names
  inside : ∀ batch ∈ batches, ∀ member ∈ batch.members, member ∈ ready
  left : ∀ member ∈ ready, state.names.contains member = true ∨
    member ∈ batches.flatMap (·.members)

theorem Underway.next {start : NamingState} {before after : NamingState × NameSet}
    (underway : Underway graph forest space ready start (batch :: rest) before.1)
    (ran : (nameBatch graph guarded space before batch).result = .ok after) :
    Underway graph forest space ready start rest after.1 := by
  obtain ⟨answer, done⟩ := nameBatch_ok ran
  obtain ⟨run, -, all⟩ := done.run underway.due (underway.inside batch List.mem_cons_self)
  refine ⟨underway.run.trans run, underway.due.mono run.keeps, ?_, ?_⟩
  · exact fun other later => underway.inside other (List.mem_cons_of_mem _ later)
  · intro member chosen
    rcases underway.left member chosen with named | waiting
    · exact .inl (run.keeps.contains named)
    · rw [List.flatMap_cons, List.mem_append] at waiting
      exact waiting.imp (all member) id

theorem Underway.begin (due : Due graph forest space ready state.names)
    (divides : graph.Divides state.names ready batches) :
    Underway graph forest space ready state batches state where
  run := .refl
  due := due
  inside batch listed _ inside :=
    divides.perm.subset (List.mem_flatMap.mpr ⟨batch, listed, inside⟩)
  left _ chosen := .inr (divides.perm.symm.subset chosen)

/-- A round that succeeds is a run that names every member it was to name. -/
theorem round_run (due : Due graph forest space ready state.names)
    (ran : (round graph guarded state space ready).result = .ok named) :
    Reaches graph forest state named ∧ ∀ member ∈ ready, named.names.contains member = true := by
  obtain ⟨batches, batched, divides⟩ := Graph.batches_of_canPropose due.can
  rw [round_eq_foldlM batched] at ran
  obtain ⟨⟨final, forbidden⟩, folded, ran, -⟩ := Logged.bind_ok ran
  cases ran
  have done := Logged.foldlM_ok
    (fun rest current _ => Underway graph forest space ready state rest current.1) []
    (fun underway ran => underway.next ran) (Underway.begin due divides) folded
  refine ⟨done.run, fun member chosen => (done.left member chosen).resolve_right ?_⟩
  simp

/-- A round names nobody else. -/
theorem round_confined (due : Due graph forest space ready state.names)
    (ran : (round graph guarded state space ready).result = .ok named) {entity : EntityRef}
    (other : entity ∉ ready) : named.names.get? entity = state.names.get? entity := by
  obtain ⟨batches, batched, divides⟩ := Graph.batches_of_canPropose due.can
  rw [round_eq_foldlM batched] at ran
  obtain ⟨⟨final, forbidden⟩, folded, ran, -⟩ := Logged.bind_ok ran
  cases ran
  refine (Logged.foldlM_ok (fun rest current _ =>
    Underway graph forest space ready state rest current.1 ∧
      current.1.names.get? entity = state.names.get? entity) [] ?_
    ⟨Underway.begin due divides, rfl⟩ folded).2
  rintro batch rest before after - ⟨underway, same⟩ ran
  refine ⟨underway.next ran, ?_⟩
  obtain ⟨answer, done⟩ := nameBatch_ok ran
  have inside := underway.inside batch List.mem_cons_self
  obtain ⟨-, adds, -⟩ := done.run underway.due inside
  rw [← same]
  apply Option.ext
  intro name
  rw [adds]
  exact or_iff_left fun pair => other (inside entity (List.of_mem_zip pair).1)

/-! ### The loop -/

/-- Who is without a name later was so before. -/
theorem unnamed_eq_filter (graph : Graph) (forest : List NamespaceRef) {before after : Names}
    (keeps : Keeps before after) : graph.unnamed after forest =
      (graph.unnamed before forest).filter fun member => !after.contains member := by
  unfold Graph.unnamed
  rw [List.filter_filter]
  refine List.filter_congr fun other _ => ?_
  cases held : before.contains other with
  | true => simp [keeps.contains held]
  | false => simp

/-- Every round leaves fewer members without a name. -/
theorem unnamed_lt (graph : Graph) {before after : Names} (keeps : Keeps before after)
    (placed : entity ∈ forest.flatMap graph.members) (unnamed : before.get? entity = none)
    (named : after.contains entity = true) :
    (graph.unnamed after forest).length < (graph.unnamed before forest).length := by
  rw [unnamed_eq_filter graph forest keeps, List.length_filter_lt_length_iff_exists]
  refine ⟨entity, List.mem_filter.mpr ⟨placed, ?_⟩, by simp [named]⟩
  simp [(before.contains_eq_false_iff entity).mpr unnamed]

/-- A round that is picked and succeeds is a run, and leaves fewer members without a name. -/
theorem Orderly.round_progress (orderly : Orderly graph forest state)
    (picked : graph.next? state.names forest = some (space, ready))
    (ran : (round graph guarded state space ready).result = .ok named) :
    Reaches graph forest state named ∧
      (graph.unnamed named.names forest).length < (graph.unnamed state.names forest).length := by
  obtain ⟨due, nonempty, fresh⟩ := orderly.due picked
  obtain ⟨run, all⟩ := round_run due ran
  obtain ⟨member, chosen⟩ := List.exists_mem_of_ne_nil ready nonempty
  have placed : member ∈ forest.flatMap graph.members :=
    List.mem_flatMap.mpr ⟨space, due.listed, due.member member chosen⟩
  exact ⟨run, unnamed_lt graph run.keeps placed (fresh member chosen) (all member chosen)⟩

/-- What holds when a loop of rounds ends: everything named on the way is part of one run, and the
fuel was enough for it to end by itself. -/
theorem rounds_run (linked : graph.Linked) (orderly : Orderly graph forest state)
    (enough : (graph.unnamed state.names forest).length < fuel)
    (ran : (rounds graph guarded forest fuel done state).result = .ok (final, count)) :
    Reaches graph forest state final ∧ graph.next? final.names forest = none := by
  induction fuel generalizing state done with
  | zero => omega
  | succ fuel ih =>
    unfold rounds at ran
    cases picked : graph.next? state.names forest with
    | none =>
      simp only [picked] at ran
      cases ran
      exact ⟨.refl, picked⟩
    | some choice =>
      obtain ⟨space, ready⟩ := choice
      simp only [picked] at ran
      obtain ⟨middle, here, later, -⟩ := Logged.bind_ok ran
      obtain ⟨run, fewer⟩ := orderly.round_progress picked here
      obtain ⟨rest, stuck⟩ := ih (orderly.reach linked run) (by omega) later
      exact ⟨run.trans rest, stuck⟩

/-- What each round preserves, the loop preserves. -/
theorem rounds_preserves (Holds : NamingState → Prop) (linked : graph.Linked)
    (each : ∀ {state space ready named}, Orderly graph forest state →
      graph.next? state.names forest = some (space, ready) →
      (round graph guarded state space ready).result = .ok named → Holds state → Holds named)
    (orderly : Orderly graph forest state) (held : Holds state)
    (ran : (rounds graph guarded forest fuel done state).result = .ok (final, count)) :
    Holds final := by
  induction fuel generalizing state done with
  | zero =>
    cases ran
    exact held
  | succ fuel ih =>
    unfold rounds at ran
    cases picked : graph.next? state.names forest with
    | none =>
      simp only [picked] at ran
      cases ran
      exact held
    | some choice =>
      obtain ⟨space, ready⟩ := choice
      simp only [picked] at ran
      obtain ⟨middle, here, later, -⟩ := Logged.bind_ok ran
      obtain ⟨run, -⟩ := orderly.round_progress picked here
      exact ih (orderly.reach linked run) (each orderly picked here held) later

/-- What holds of the calls of each round, and goes on holding while more is named, holds of all
calls in the end. -/
theorem rounds_calls (Holds : Names → NamingCall → Prop) (linked : graph.Linked)
    (mono : ∀ {before after call}, Keeps before after → Holds before call → Holds after call)
    (each : ∀ {state space ready named}, Orderly graph forest state →
      graph.next? state.names forest = some (space, ready) →
      (round graph guarded state space ready).result = .ok named →
      ∀ call ∈ (round graph guarded state space ready).calls, Holds named.names call)
    (orderly : Orderly graph forest state)
    (ran : (rounds graph guarded forest fuel done state).result = .ok (final, count)) :
    Reaches graph forest state final ∧
      ∀ call ∈ (rounds graph guarded forest fuel done state).calls, Holds final.names call := by
  induction fuel generalizing state done with
  | zero =>
    cases ran
    exact ⟨.refl, fun call made => by cases made⟩
  | succ fuel ih =>
    unfold rounds at ran ⊢
    cases picked : graph.next? state.names forest with
    | none =>
      simp only [picked] at ran ⊢
      cases ran
      exact ⟨.refl, fun call made => by cases made⟩
    | some choice =>
      obtain ⟨space, ready⟩ := choice
      simp only [picked] at ran ⊢
      obtain ⟨middle, here, later, logged⟩ := Logged.bind_ok ran
      obtain ⟨run, -⟩ := orderly.round_progress picked here
      obtain ⟨rest, others⟩ := ih (orderly.reach linked run) later
      refine ⟨run.trans rest, fun call made => ?_⟩
      rw [logged] at made
      rcases List.mem_append.mp made with early | late
      · exact mono rest.keeps (each orderly picked here call early)
      · exact others call late

end NamingState

/-! ### Resolution -/

namespace Graph
variable {roots : List NamespaceRef} {guarded : Bool} {resolution : Resolution}

/-- At most every entity is without a name. -/
theorem length_unnamed_le (linked : graph.Linked) (once : forest.Nodup) (names : Names) :
    (graph.unnamed names forest).length ≤ graph.entities.size := by
  have bounded : ∀ index ∈ (graph.unnamed names forest).map Handle.index,
      index ∈ List.range graph.entities.size := by
    intro index listed
    obtain ⟨member, inside, rfl⟩ := List.mem_map.mp listed
    have there := linked.known_of_placed (List.mem_of_mem_filter inside)
    exact List.mem_range.mpr (entity?_isSome_iff.mp there)
  have distinct : ((graph.unnamed names forest).map Handle.index).Nodup :=
    ((linked.nodup_flatMap_members once).filter _).map fun _ _ => Handle.ext_index
  simpa using (List.subperm_of_subset distinct bounded).length_le

/-- On an accepted graph a resolution is its rounds, after the fixed names are given. -/
theorem resolve_eq_rounds (valid : graph.validate = .ok ())
    (flattened : graph.flatten roots = .ok forest)
    (began : NamingState.assignFixed graph forest = .ok fixed) :
    graph.resolve guarded roots =
      (NamingState.rounds graph guarded forest (graph.entities.size + 1) 0 fixed) >>= fun last =>
        pure ⟨last.1.names, graph.unnamed last.1.names forest, last.2⟩ := by
  unfold resolve
  rw [valid, flattened]
  change (Logged.of (NamingState.assignFixed graph forest) >>= _) = _
  rw [began]
  rfl

/-- However it ends, a resolution calls whom its rounds call, if it comes to them at all. -/
theorem calls_resolve (linked : graph.Linked) (guarded : Bool) (roots : List NamespaceRef) :
    (graph.resolve guarded roots).calls = [] ∨
      ∃ forest fixed, graph.flatten roots = .ok forest ∧
        fixed.HoldsFixed graph (forest.flatMap graph.members) ∧
        (graph.resolve guarded roots).calls =
          (NamingState.rounds graph guarded forest (graph.entities.size + 1) 0 fixed).calls := by
  cases valid : graph.validate with
  | error cause =>
    left
    unfold resolve
    rw [valid]
    rfl
  | ok accepted =>
    cases flattened : graph.flatten roots with
    | error cause =>
      left
      unfold resolve
      rw [valid, flattened]
      rfl
    | ok forest =>
      obtain ⟨fixed, began, holdsFixed⟩ :=
        NamingState.assignFixed_holdsFixed linked (nodup_flatten flattened)
      refine .inr ⟨forest, fixed, rfl, holdsFixed, ?_⟩
      rw [resolve_eq_rounds valid flattened began, Logged.calls_bind_pure]

/-- The course of a resolution that succeeds. -/
structure Course (graph : Graph) (roots forest : List NamespaceRef) (fixed final : NamingState)
    (resolution : Resolution) : Prop where
  valid : graph.validate = .ok ()
  flattened : graph.flatten roots = .ok forest
  began : NamingState.assignFixed graph forest = .ok fixed
  holdsFixed : fixed.HoldsFixed graph (forest.flatMap graph.members)
  run : NamingState.Reaches graph forest fixed final
  stuck : graph.next? final.names forest = none
  names : resolution.names = final.names
  unresolved : resolution.unresolved = graph.unnamed final.names forest

theorem Course.orderly (linked : graph.Linked)
    (course : Course graph roots forest fixed final resolution) :
    final.Orderly graph forest :=
  course.holdsFixed.orderly.reach linked course.run

theorem resolve_course (linked : graph.Linked)
    (ran : (graph.resolve guarded roots).result = .ok resolution) :
    ∃ forest fixed final, Course graph roots forest fixed final resolution := by
  obtain ⟨⟨⟩, valid, ran, -⟩ := Logged.bind_ok ran
  obtain ⟨forest, flattened, ran, -⟩ := Logged.bind_ok ran
  obtain ⟨fixed, began, ran, -⟩ := Logged.bind_ok ran
  obtain ⟨⟨final, count⟩, looped, ran, -⟩ := Logged.bind_ok ran
  cases ran
  have once := nodup_flatten flattened
  obtain ⟨same, again, holdsFixed⟩ := NamingState.assignFixed_holdsFixed linked once
  obtain rfl : fixed = same := Except.ok.inj (began.symm.trans again)
  have enough := length_unnamed_le linked once fixed.names
  obtain ⟨run, stuck⟩ := NamingState.rounds_run linked holdsFixed.orderly (by omega) looped
  exact ⟨forest, fixed, final, valid, flattened, began, holdsFixed, run, stuck, rfl, rfl⟩

/-- What holds of the calls of each round, and goes on holding while more is named, holds of all
calls of a resolution. -/
theorem resolve_calls (Holds : Names → NamingCall → Prop) (linked : graph.Linked)
    (mono : ∀ {before after call}, Keeps before after → Holds before call → Holds after call)
    (course : Course graph roots forest fixed final resolution)
    (each : ∀ {state space ready named}, NamingState.Orderly graph forest state →
      graph.next? state.names forest = some (space, ready) →
      (NamingState.round graph guarded state space ready).result = .ok named →
      ∀ call ∈ (NamingState.round graph guarded state space ready).calls, Holds named.names call)
    (ran : (graph.resolve guarded roots).result = .ok resolution) :
    ∀ call ∈ (graph.resolve guarded roots).calls, Holds resolution.names call := by
  rw [resolve_eq_rounds course.valid course.flattened course.began] at ran ⊢
  obtain ⟨⟨last, count⟩, looped, ran, logged⟩ := Logged.bind_ok ran
  cases ran
  rw [logged, Logged.calls_pure, List.append_nil]
  exact (NamingState.rounds_calls Holds linked mono each course.holdsFixed.orderly looped).2

end Graph

end NameAssignment
