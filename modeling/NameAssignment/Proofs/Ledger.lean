import NameAssignment.Proofs.Guarding

/-! The calls of a run account for its names. A name that was not there at the start was given by
one call, in answer to a proposal that its entity would still make at the end, since no name it is
made from has changed. A run that fails does so at one batch, and up to there its calls account for
its names as well. -/
namespace NameAssignment

variable {graph : Graph} {forest : List NamespaceRef} {before middle after : Names}

/-! ### Proposals are kept -/

theorem Keeps.gather (keeps : Keeps before after) {label : EntityLabel}
    {dependencies : List EntityRef}
    (gathered : Entity.gather label before dependencies = .ok found) :
    Entity.gather label after dependencies = .ok found := by
  induction dependencies generalizing found with
  | nil => exact gathered
  | cons dependency rest ih =>
    simp only [Entity.gather] at gathered ⊢
    cases held : before.get? dependency with
    | none => simp [held] at gathered
    | some name =>
      cases later : Entity.gather label before rest with
      | error cause => simp [held, later, Except.map] at gathered
      | ok others =>
        simp only [held, later] at gathered
        simp only [keeps held, ih later]
        exact gathered

/-- An entity that proposes a name goes on proposing it, whatever is named later. -/
theorem Keeps.propose (keeps : Keeps before after) {entity : Entity} {handle : EntityRef}
    (proposes : entity.propose handle before = .ok proposed) :
    entity.propose handle after = .ok proposed := by
  obtain ⟨home, name, source⟩ := entity
  cases source with
  | fixed literal => exact proposes
  | simple function proposal => exact proposes
  | dependent function dependencies combine =>
    simp only [Entity.propose] at proposes ⊢
    cases gathered : Entity.gather ⟨name, handle⟩ before dependencies with
    | error cause => simp [gathered, Except.map] at proposes
    | ok found =>
      rw [gathered] at proposes
      rw [keeps.gather gathered]
      exact proposes

theorem Keeps.asks (keeps : Keeps before after) {member : EntityRef} {function : FunctionRef}
    (asks : graph.Asks before member function proposed) :
    graph.Asks after member function proposed := by
  obtain ⟨entity, found, asked, proposes⟩ := asks
  exact ⟨entity, found, asked, keeps.propose proposes⟩

/-! ### Calls and names -/

/-- What an answered call has come to: its members, in the order of their namespace, still propose
what was asked for, and have the names that were answered. -/
structure Served (graph : Graph) (names : Names) (call : NamingCall) (answer : List String) :
    Prop where
  asked : ∃ function, graph.function? call.batch.function = some function ∧
    function call.batch.proposed call.forbidden call.batch.members.length = .ok answer
  count : answer.length = call.batch.members.length
  ordered : call.batch.members.Sublist (graph.members call.home)
  asks : ∀ member ∈ call.batch.members,
    graph.Asks names member call.batch.function call.batch.proposed
  given : ∀ {member name}, (member, name) ∈ call.batch.members.zip answer →
    names.get? member = some name

theorem Served.mono (served : Served graph before call answer) (keeps : Keeps before after) :
    Served graph after call answer where
  asked := served.asked
  count := served.count
  ordered := served.ordered
  asks member listed := keeps.asks (served.asks member listed)
  given pair := keeps (served.given pair)

/-- Every member of the batch has a name of the answer. -/
theorem Served.name_of_mem {names : Names} (served : Served graph names call answer)
    (listed : member ∈ call.batch.members) :
    ∃ name, (member, name) ∈ call.batch.members.zip answer ∧ names.get? member = some name := by
  obtain ⟨name, pair⟩ := NamingState.exists_name_of_mem served.count listed
  exact ⟨name, pair, served.given pair⟩

/-- Every name of the answer has a member of the batch. -/
theorem Served.holder_of_mem {names : Names} (served : Served graph names call answer)
    (listed : name ∈ answer) :
    ∃ member ∈ call.batch.members, names.get? member = some name := by
  obtain ⟨member, pair⟩ := NamingState.exists_member_of_mem served.count listed
  exact ⟨member, (List.of_mem_zip pair).1, served.given pair⟩

/-- The calls account for all that `after` has and `before` has not. -/
structure Ledger (graph : Graph) (before : Names) (calls : List NamingCall) (after : Names) :
    Prop where
  keeps : Keeps before after
  /-- No entity stands in two batches. -/
  once : (calls.flatMap (·.batch.members)).Nodup
  fresh : ∀ call ∈ calls, ∀ member ∈ call.batch.members, before.get? member = none
  served : ∀ call ∈ calls, ∃ answer, Served graph after call answer
  covered : ∀ {entity name}, after.get? entity = some name →
    before.get? entity = some name ∨ ∃ call ∈ calls, entity ∈ call.batch.members

namespace Ledger

theorem nil (graph : Graph) (names : Names) : Ledger graph names [] names where
  keeps := Keeps.refl names
  once := List.nodup_nil
  fresh _ made := by cases made
  served _ made := by cases made
  covered := .inl

/-- Two runs in a row. Whoever was named in the first is not named again in the second. -/
theorem append (first : Ledger graph before earlier middle)
    (second : Ledger graph middle later after) : Ledger graph before (earlier ++ later) after where
  keeps := first.keeps.trans second.keeps
  once := by
    rw [List.flatMap_append]
    refine List.nodup_append.mpr ⟨first.once, second.once, ?_⟩
    rintro member early _ late rfl
    obtain ⟨call, made, listed⟩ := List.mem_flatMap.mp early
    obtain ⟨other, madeLater, listedLater⟩ := List.mem_flatMap.mp late
    obtain ⟨answer, served⟩ := first.served call made
    obtain ⟨name, -, held⟩ := served.name_of_mem listed
    rw [second.fresh other madeLater member listedLater] at held
    cases held
  fresh call made member listed := by
    rcases List.mem_append.mp made with early | late
    · exact first.fresh call early member listed
    · cases held : before.get? member with
      | none => rfl
      | some name =>
        have kept := first.keeps held
        rw [second.fresh call late member listed] at kept
        cases kept
  served call made := by
    rcases List.mem_append.mp made with early | late
    · obtain ⟨answer, served⟩ := first.served call early
      exact ⟨answer, served.mono second.keeps⟩
    · exact second.served call late
  covered {entity name} held := by
    rcases second.covered held with known | ⟨call, made, listed⟩
    · rcases first.covered known with old | ⟨call, made, listed⟩
      · exact .inl old
      · exact .inr ⟨call, List.mem_append_left _ made, listed⟩
    · exact .inr ⟨call, List.mem_append_right _ made, listed⟩

end Ledger

namespace NamingState
variable {state named : NamingState} {guarded : Bool} {space : NamespaceRef}
  {ready : List EntityRef} {answer : List String}

/-! ### A batch -/

/-- What makes a batch one of `space`, to be named from `names` on. -/
structure Fits (graph : Graph) (names : Names) (space : NamespaceRef) (batch : Batch) : Prop where
  nonempty : batch.members ≠ []
  ordered : batch.members.Sublist (graph.members space)
  asks : ∀ member ∈ batch.members, graph.Asks names member batch.function batch.proposed

/-- The call for a batch accounts for what naming it has added. -/
theorem BatchNamed.ledger {before after : NamingState × NameSet} {batch : Batch}
    (done : BatchNamed graph guarded space before after batch answer)
    (due : Due graph forest space ready before.1.names)
    (inside : ∀ member ∈ batch.members, member ∈ ready)
    (fits : Fits graph before.1.names space batch) (once : batch.members.Nodup)
    (fresh : ∀ member ∈ batch.members, before.1.names.get? member = none) :
    Ledger graph before.1.names (nameBatch graph guarded space before batch).calls
      after.1.names := by
  obtain ⟨run, adds, -⟩ := done.run due inside
  have served : Served graph after.1.names ⟨space, batch, before.2, before.1.names⟩ answer :=
    { asked := done.asked
      count := (NamingFunction.audit_eq_ok_iff.mp done.audited).1
      ordered := fits.ordered
      asks := fun member listed => run.keeps.asks (fits.asks member listed)
      given := fun pair => adds.mpr (.inr pair) }
  rw [done.logged]
  refine ⟨run.keeps, by simpa using once, ?_, ?_, ?_⟩
  · intro call made
    obtain rfl := List.mem_singleton.mp made
    exact fresh
  · intro call made
    obtain rfl := List.mem_singleton.mp made
    exact ⟨answer, served⟩
  · intro entity name held
    rcases adds.mp held with old | pair
    · exact .inl old
    · exact .inr ⟨_, List.mem_singleton_self _, (List.of_mem_zip pair).1⟩

/-! ### A round -/

/-- Between two batches of a round, with the calls it has made so far. All of them are calls for its
namespace and, in an unguarded run, with the forbidden names that the round began with. -/
structure Posting (graph : Graph) (forest : List NamespaceRef) (guarded : Bool)
    (space : NamespaceRef) (ready : List EntityRef) (start : NamingState) (batches : List Batch)
    (current : NamingState × NameSet) (made : List NamingCall) : Prop where
  guarding : Guarding graph forest guarded space ready start batches current
  fits : ∀ batch ∈ batches, Fits graph start.names space batch
  ledger : Ledger graph start.names made current.1.names
  home : ∀ call ∈ made, call.home = space
  steady : guarded = false → current.2 = graph.forbiddenNames start.names false space ∧
    ∀ call ∈ made, call.forbidden = current.2

theorem Posting.begin (linked : graph.Linked) (orderly : Orderly graph forest state)
    (picked : graph.next? state.names forest = some (space, ready))
    (batched : graph.batches state.names ready = .ok batches)
    (divides : graph.Divides state.names ready batches) :
    Posting graph forest guarded space ready state batches
      (state, graph.forbiddenNames state.names guarded space) [] where
  guarding := .begin linked orderly picked divides
  fits batch listed := by
    obtain ⟨due, -, -⟩ := orderly.due picked
    have ordered := Graph.batches_ordered due.can batched batch listed
    have chosen : ready.Sublist (graph.members space) := by
      rw [(Graph.of_next?_eq_some picked).2.2.1]
      exact List.filter_sublist
    exact ⟨divides.nonempty batch listed, ordered.trans chosen, divides.asks batch listed⟩
  ledger := .nil graph state.names
  home _ made := by cases made
  steady := by
    rintro rfl
    exact ⟨rfl, fun _ made => by cases made⟩

theorem Posting.next (linked : graph.Linked) {start : NamingState}
    {before after : NamingState × NameSet}
    (posting : Posting graph forest guarded space ready start (batch :: rest) before made)
    (ran : (nameBatch graph guarded space before batch).result = .ok after) :
    Posting graph forest guarded space ready start rest after
      (made ++ (nameBatch graph guarded space before batch).calls) := by
  obtain ⟨answer, done⟩ := nameBatch_ok ran
  have guarding := posting.guarding
  have underway := guarding.underway
  have fits := posting.fits batch List.mem_cons_self
  have once := guarding.once
  rw [List.flatMap_cons, List.nodup_append] at once
  have fresh : ∀ member ∈ batch.members, before.1.names.get? member = none := by
    intro member listed
    apply guarding.fresh
    rw [List.flatMap_cons]
    exact List.mem_append_left _ listed
  have still : Fits graph before.1.names space batch :=
    ⟨fits.nonempty, fits.ordered,
      fun member listed => posting.ledger.keeps.asks (fits.asks member listed)⟩
  have entry := done.ledger underway.due (underway.inside batch List.mem_cons_self) still once.1
    fresh
  refine ⟨guarding.next linked ran, ?_, posting.ledger.append entry, ?_, ?_⟩
  · exact fun other later => posting.fits other (List.mem_cons_of_mem _ later)
  · intro call listed
    rw [done.logged] at listed
    rcases List.mem_append.mp listed with earlier | new
    · exact posting.home call earlier
    · obtain rfl := List.mem_singleton.mp new
      rfl
  · intro unguarded
    obtain ⟨held, same⟩ := posting.steady unguarded
    have unchanged : after.2 = before.2 := by
      rw [done.forbidden, unguarded]
      rfl
    refine ⟨unchanged.trans held, ?_⟩
    intro call listed
    rw [done.logged] at listed
    rw [unchanged]
    rcases List.mem_append.mp listed with earlier | new
    · exact same call earlier
    · obtain rfl := List.mem_singleton.mp new
      rfl

/-- The calls of a round that succeeds account for what it has named. -/
theorem round_ledger (linked : graph.Linked) (orderly : Orderly graph forest state)
    (picked : graph.next? state.names forest = some (space, ready))
    (ran : (round graph guarded state space ready).result = .ok named) :
    Ledger graph state.names (round graph guarded state space ready).calls named.names := by
  obtain ⟨due, -, -⟩ := orderly.due picked
  obtain ⟨batches, batched, divides⟩ := Graph.batches_of_canPropose due.can
  rw [round_eq_foldlM batched] at ran ⊢
  obtain ⟨⟨final, forbidden⟩, folded, ran, logged⟩ := Logged.bind_ok ran
  cases ran
  have posting := Logged.foldlM_ok
    (fun rest current made => Posting graph forest guarded space ready state rest current made) []
    (fun posting ran => posting.next linked ran)
    (Posting.begin linked orderly picked batched divides) folded
  rw [logged, Logged.calls_pure, List.append_nil]
  exact posting.ledger

/-- A round that fails does so at one batch, with the batches before it entered. -/
theorem round_error (linked : graph.Linked) (orderly : Orderly graph forest state)
    (picked : graph.next? state.names forest = some (space, ready))
    (failed : (round graph guarded state space ready).result = .error cause) :
    ∃ batch rest current made,
      Posting graph forest guarded space ready state (batch :: rest) current made ∧
        (nameBatch graph guarded space current batch).result = .error cause ∧
        (round graph guarded state space ready).calls =
          made ++ (nameBatch graph guarded space current batch).calls := by
  obtain ⟨due, -, -⟩ := orderly.due picked
  obtain ⟨batches, batched, divides⟩ := Graph.batches_of_canPropose due.can
  rw [round_eq_foldlM batched] at failed ⊢
  rcases Logged.bind_error failed with ⟨folded, logged⟩ | ⟨last, -, failed, -⟩
  · rw [logged]
    exact Logged.foldlM_error
      (fun rest current made => Posting graph forest guarded space ready state rest current made) []
      (fun posting ran => posting.next linked ran)
      (Posting.begin linked orderly picked batched divides) folded
  · cases failed

/-! ### The loop -/

/-- The calls of a loop that ends account for what it has named. -/
theorem rounds_ledger (linked : graph.Linked) (orderly : Orderly graph forest state)
    (ran : (rounds graph guarded forest fuel done state).result = .ok (final, count)) :
    Ledger graph state.names (rounds graph guarded forest fuel done state).calls final.names := by
  induction fuel generalizing state done with
  | zero =>
    cases ran
    exact .nil graph final.names
  | succ fuel ih =>
    unfold rounds at ran ⊢
    cases picked : graph.next? state.names forest with
    | none =>
      simp only [picked] at ran
      cases ran
      exact .nil graph final.names
    | some choice =>
      obtain ⟨space, ready⟩ := choice
      simp only [picked] at ran ⊢
      obtain ⟨middle, here, later, logged⟩ := Logged.bind_ok ran
      obtain ⟨due, -, -⟩ := orderly.due picked
      obtain ⟨run, -⟩ := round_run due here
      rw [logged]
      exact (round_ledger linked orderly picked here).append (ih (orderly.reach linked run) later)

/-- A loop that fails does so in one round, after rounds that have succeeded. -/
theorem rounds_error (linked : graph.Linked) (orderly : Orderly graph forest state)
    (failed : (rounds graph guarded forest fuel done state).result = .error cause) :
    ∃ middle space ready earlier, Reaches graph forest state middle ∧
      graph.next? middle.names forest = some (space, ready) ∧
      (round graph guarded middle space ready).result = .error cause ∧
      (rounds graph guarded forest fuel done state).calls =
        earlier ++ (round graph guarded middle space ready).calls := by
  induction fuel generalizing state done with
  | zero => cases failed
  | succ fuel ih =>
    unfold rounds at failed ⊢
    cases picked : graph.next? state.names forest with
    | none =>
      simp only [picked] at failed
      cases failed
    | some choice =>
      obtain ⟨space, ready⟩ := choice
      simp only [picked] at failed ⊢
      rcases Logged.bind_error failed with ⟨here, logged⟩ | ⟨next, here, later, logged⟩
      · exact ⟨state, space, ready, [], .refl, picked, here, logged⟩
      · obtain ⟨due, -, -⟩ := orderly.due picked
        obtain ⟨run, -⟩ := round_run due here
        obtain ⟨middle, other, others, earlier, rest, chosen, refused, calls⟩ :=
          ih (orderly.reach linked run) later
        refine ⟨middle, other, others, (round graph guarded state space ready).calls ++ earlier,
          run.trans rest, chosen, refused, ?_⟩
        rw [logged, calls, List.append_assoc]

end NamingState

/-! ### A resolution -/

/-- The calls of a resolution account for every name but the fixed ones. -/
theorem Graph.resolve_ledger {roots : List NamespaceRef} (linked : graph.Linked)
    (course : Course graph roots forest fixed final resolution)
    (ran : (graph.resolve guarded roots).result = .ok resolution) :
    Ledger graph fixed.names (graph.resolve guarded roots).calls resolution.names := by
  rw [resolve_eq_rounds course.valid course.flattened course.began] at ran ⊢
  obtain ⟨⟨last, count⟩, looped, ran, logged⟩ := Logged.bind_ok ran
  cases ran
  rw [logged, Logged.calls_pure, List.append_nil]
  exact NamingState.rounds_ledger linked course.holdsFixed.orderly looped

end NameAssignment
