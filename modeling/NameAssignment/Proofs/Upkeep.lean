import NameAssignment.Proofs.Attribution

/-! The upkeep of the forbidden names. A guarded round collects them once and then only adds what
each batch is given. That is as good as collecting them again for every call: the names of a batch
all go to members of the namespace, and nobody else is named meanwhile. So a call is told of exactly
the names that are held, when it is made, in its namespace and in those that this one forbids. -/
namespace NameAssignment.Upkeep
open NamingState Attribution

variable {graph : Graph} {forest : List NamespaceRef} {space : NamespaceRef}
  {state : NamingState} {ready : List EntityRef} {answer : List String} {names middle : Names}

/-! ### One batch -/

/-- To add the names of a batch is to collect the forbidden names again. -/
theorem forbidden_eq_of_batchNamed {before after : NamingState × NameSet} {batch : Batch}
    (done : BatchNamed graph true space before after batch answer)
    (due : Due graph forest space ready before.1.names)
    (inside : ∀ member ∈ batch.members, member ∈ ready)
    (current : before.2 = graph.forbiddenNames before.1.names true space) :
    after.2 = graph.forbiddenNames after.1.names true space := by
  obtain ⟨-, adds, -⟩ := done.run due inside
  have backed : Backed graph true space before.1.names before.2 :=
    fun name listed => current ▸ listed
  apply NameSet.eq_of_contains
  intro name
  rw [Bool.eq_iff_iff]
  constructor
  · exact done.backed due inside backed name
  · intro listed
    obtain ⟨other, avoided, holder, member, held⟩ := contains_forbiddenNames_iff.mp listed
    rw [done.forbidden, if_pos rfl, NameSet.contains_insertAll, Bool.or_eq_true, decide_eq_true_eq]
    rcases adds.mp held with earlier | new
    · rw [current]
      exact .inr (contains_forbiddenNames_iff.mpr ⟨other, avoided, holder, member, earlier⟩)
    · exact .inl (List.of_mem_zip new).2

/-! ### The calls of a run -/

/-- Calls that are made one after the other, from given names on: when one is made, the calls before
it account for the names, and it is forbidden what would be collected then. -/
def Timely (graph : Graph) (start : Names) (calls : List NamingCall) : Prop :=
  ∀ ⦃earlier call later⦄, calls = earlier ++ call :: later →
    Ledger graph start earlier call.held ∧
      call.forbidden = graph.forbiddenNames call.held true call.home

theorem timely_nil (graph : Graph) (names : Names) : Timely graph names [] := by
  intro earlier call later split
  simp at split

theorem timely_singleton {call : NamingCall}
    (current : call.forbidden = graph.forbiddenNames call.held true call.home) :
    Timely graph call.held [call] := by
  intro earlier other later split
  obtain ⟨rfl, rfl, rfl⟩ : earlier = [] ∧ other = call ∧ later = [] := by
    simpa [List.cons_eq_append_iff] using split
  exact ⟨.nil graph _, current⟩

/-- Calls in a row are timely if the second ones go on from where the first ones lead. -/
theorem Timely.append (first : Timely graph names calls) (ledger : Ledger graph names calls middle)
    (second : Timely graph middle others) : Timely graph names (calls ++ others) := by
  intro earlier call later split
  -- Either the call is one of the second ones, or a call of the first is left over in between.
  rcases List.append_eq_append_iff.mp split with ⟨between, rfl, rest⟩ | ⟨between, whole, rest⟩
  · obtain ⟨entered, current⟩ := second rest
    exact ⟨ledger.append entered, current⟩
  · cases between with
    | nil =>
      obtain rfl : calls = earlier := by simpa using whole
      obtain ⟨entered, current⟩ := @second [] call later rest.symm
      exact ⟨by simpa using ledger.append entered, current⟩
    | cons other between =>
      obtain ⟨rfl, -⟩ : call = other ∧ _ := List.cons.inj rest
      exact first whole

/-- Between two batches of a guarded round, with the calls it has made so far. -/
structure UpToDate (graph : Graph) (forest : List NamespaceRef) (space : NamespaceRef)
    (ready : List EntityRef) (start : NamingState) (batches : List Batch)
    (current : NamingState × NameSet) (made : List NamingCall) : Prop where
  posting : Posting graph forest true space ready start batches current made
  forbidden : current.2 = graph.forbiddenNames current.1.names true space
  timely : Timely graph start.names made

/-- The call for the next batch is timely, whatever comes of it. -/
theorem UpToDate.timely_next {start : NamingState} {before : NamingState × NameSet}
    (upToDate : UpToDate graph forest space ready start (batch :: rest) before made) :
    Timely graph start.names (made ++ (nameBatch graph true space before batch).calls) := by
  rcases calls_nameBatch graph true space before batch with silent | single
  · rw [silent, List.append_nil]
    exact upToDate.timely
  · rw [single]
    exact upToDate.timely.append upToDate.posting.ledger (timely_singleton upToDate.forbidden)

theorem UpToDate.next (linked : graph.Linked) {start : NamingState}
    {before after : NamingState × NameSet}
    (upToDate : UpToDate graph forest space ready start (batch :: rest) before made)
    (ran : (nameBatch graph true space before batch).result = .ok after) :
    UpToDate graph forest space ready start rest after
      (made ++ (nameBatch graph true space before batch).calls) := by
  obtain ⟨answer, done⟩ := nameBatch_ok ran
  have underway := upToDate.posting.guarding.underway
  have inside := underway.inside batch List.mem_cons_self
  exact ⟨upToDate.posting.next linked ran,
    forbidden_eq_of_batchNamed done underway.due inside upToDate.forbidden, upToDate.timely_next⟩

/-- The calls of a guarded round are timely, whether it succeeds or not. -/
theorem round_timely (linked : graph.Linked) (orderly : Orderly graph forest state)
    (picked : graph.next? state.names forest = some (space, ready)) :
    Timely graph state.names (round graph true state space ready).calls := by
  obtain ⟨due, -, -⟩ := orderly.due picked
  obtain ⟨batches, batched, divides⟩ := Graph.batches_of_canPropose due.can
  rw [round_eq_foldlM batched, Logged.calls_bind_pure]
  have begun : UpToDate graph forest space ready state batches
      (state, graph.forbiddenNames state.names true space) [] :=
    ⟨.begin linked orderly picked batched divides, rfl, timely_nil graph state.names⟩
  exact Logged.foldlM_calls (UpToDate graph forest space ready state) []
    (fun upToDate ran => upToDate.next linked ran) UpToDate.timely_next UpToDate.timely begun

/-- So are the calls of the loop. -/
theorem rounds_timely (linked : graph.Linked) (orderly : Orderly graph forest state) :
    Timely graph state.names (rounds graph true forest fuel done state).calls := by
  induction fuel generalizing state done with
  | zero => exact timely_nil graph state.names
  | succ fuel ih =>
    unfold rounds
    cases picked : graph.next? state.names forest with
    | none => exact timely_nil graph state.names
    | some choice =>
      obtain ⟨space, ready⟩ := choice
      have here := round_timely linked orderly picked
      cases ended : (round graph true state space ready).result with
      | error cause =>
        simp only [Logged.bind_of_error ended]
        exact here
      | ok named =>
        simp only [Logged.bind_of_ok ended]
        obtain ⟨run, -⟩ := orderly.round_progress picked ended
        exact here.append (round_ledger linked orderly picked ended)
          (ih (orderly.reach linked run))

/-! ### The names held -/

/-- A call gives an entity a name. -/
def GivenBy (graph : Graph) (call : NamingCall) (handle : EntityRef) (name : String) : Prop :=
  ∃ answer, Replies graph call (.ok answer) ∧ (handle, name) ∈ call.batch.members.zip answer

/-- What calls account for are the fixed names and those that they gave. -/
theorem held_iff {fixed : NamingState} {members : List EntityRef}
    (holdsFixed : fixed.HoldsFixed graph members) (ledger : Ledger graph fixed.names calls names) :
    names.get? handle = some name ↔
      (handle ∈ members ∧ ∃ entity, graph.entity? handle = some entity ∧
        entity.source = .fixed name) ∨ ∃ call ∈ calls, GivenBy graph call handle name := by
  rw [← holdsFixed.named]
  constructor
  · intro held
    rcases ledger.covered held with old | ⟨call, made, listed⟩
    · exact .inl old
    · obtain ⟨answer, served⟩ := ledger.served call made
      obtain ⟨given, pair, same⟩ := served.name_of_mem listed
      obtain rfl : name = given := Option.some.inj (held.symm.trans same)
      exact .inr ⟨call, made, answer, served.asked, pair⟩
  · rintro (old | ⟨call, made, answer, replied, pair⟩)
    · exact ledger.keeps old
    · obtain ⟨same, served⟩ := ledger.served call made
      obtain rfl : answer = same := Except.ok.inj (replied.unique served.asked)
      exact served.given pair

/-- **The forbidden names are current at every call.** Whatever the history, the naming functions
and the roots, and however a guarded run ends: a call is forbidden what would be collected afresh
from the names held when it is made. These are the names that members of its namespace, and of the
namespaces that this one forbids, hold at that time; and held are then the fixed names of the forest
and the names that the calls before gave. -/
theorem forbidden_names_are_current (steps : List BuildStep) (roots : List NamespaceRef)
    (earlier later : List NamingCall) (call : NamingCall)
    (made : ((Graph.ofSteps steps).resolve true roots).calls = earlier ++ call :: later) :
    call.forbidden = (Graph.ofSteps steps).forbiddenNames call.held true call.home ∧
    (∀ name, call.forbidden.contains name = true ↔
      ∃ space, (space = call.home ∨ (Graph.ofSteps steps).forbids call.home space = true) ∧
        ∃ holder ∈ (Graph.ofSteps steps).members space, call.held.get? holder = some name) ∧
    ∃ forest, (Graph.ofSteps steps).flatten roots = .ok forest ∧
      ∀ handle name, call.held.get? handle = some name ↔
        (handle ∈ forest.flatMap (Graph.ofSteps steps).members ∧
          ∃ entity, (Graph.ofSteps steps).entity? handle = some entity ∧
            entity.source = .fixed name) ∨
        ∃ previous ∈ earlier, GivenBy (Graph.ofSteps steps) previous handle name := by
  have linked := Graph.linked_ofSteps steps
  rcases Graph.calls_resolve linked true roots with silent | ⟨forest, fixed, flattened, holdsFixed,
    calls⟩
  · simp [silent] at made
  · rw [calls] at made
    obtain ⟨ledger, current⟩ := rounds_timely linked holdsFixed.orderly made
    refine ⟨current, ?_, forest, flattened, fun handle name => held_iff holdsFixed ledger⟩
    intro name
    rw [current, contains_forbiddenNames_iff]
    simp only [linked.forbids_iff, true_and, or_comm]

/-- A reserved word in the way of the first type, and a second type whose naming function fails. -/
def lastRefused : List BuildStep := [
  .function (Counting.names '_'),
  .function fun _ _ _ => .error (.invalidRequest "no name left"),
  .keywords "keywords" ["type"],
  .space { name := "types", forbidden := [⟨0⟩] },
  .simple ⟨1⟩ ⟨0⟩ "type",
  .simple ⟨1⟩ ⟨1⟩ "Foo"]

/-- The call that fails was told of the reserved word and of what the round had given by then. -/
theorem last_call_knows_both : ∃ first second,
    ((Graph.ofSteps lastRefused).resolve true [⟨0⟩, ⟨1⟩]).calls = [first] ++ second :: [] ∧
      ((Graph.ofSteps lastRefused).resolve true [⟨0⟩, ⟨1⟩]).result =
        .error (.invalidRequest "no name left") ∧
      second.forbidden =
        (Graph.ofSteps lastRefused).forbiddenNames second.held true second.home ∧
      second.forbidden.toList = ["type", "type_"] ∧
      GivenBy (Graph.ofSteps lastRefused) first ⟨1⟩ "type_" := by
  obtain ⟨first, second, calls, listed, held, notFixed⟩ : ∃ first second,
      ((Graph.ofSteps lastRefused).resolve true [⟨0⟩, ⟨1⟩]).calls = [first] ++ second :: [] ∧
        second.forbidden.toList = ["type", "type_"] ∧ second.held.get? ⟨1⟩ = some "type_" ∧
        ((Graph.ofSteps lastRefused).entity? ⟨1⟩).map (·.isFixed) = some false :=
    ⟨_, _, rfl, by decide +kernel, by decide +kernel, by decide +kernel⟩
  obtain ⟨current, -, forest, -, account⟩ :=
    forbidden_names_are_current lastRefused [⟨0⟩, ⟨1⟩] [first] [] second calls
  refine ⟨first, second, calls, rfl, current, listed, ?_⟩
  rcases (account ⟨1⟩ "type_").mp held with ⟨-, entity, found, fixed⟩ | ⟨previous, made, gives⟩
  · simp [found, Entity.isFixed_iff.mpr ⟨_, fixed⟩] at notFixed
  · obtain rfl := List.mem_singleton.mp made
    exact gives

end NameAssignment.Upkeep
