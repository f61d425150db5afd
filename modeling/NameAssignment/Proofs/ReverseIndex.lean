import NameAssignment.NamingFunction.Counting
import NameAssignment.Proofs.Rounds

/-! The reverse index. Beside the names a run keeps, for each name, who holds it, and the check for
rivals reads nothing else. Fixed names are given unchecked, so a name can have several holders; but
nobody is given a second name, so everybody stands in the index once, under the own name. Names and
index are written one after the other, and only when nothing can fail any more. -/
namespace NameAssignment.ReverseIndex
open NamingState

variable {graph : Graph} {forest roots : List NamespaceRef} {state : NamingState}

/-! ### Assignments in place -/

/-- A program on a state that it changes in place. What it has written stays when it fails. -/
abbrev InPlace := ExceptT Error (StateM NamingState)

/-- How a program ends, and the state that it leaves. -/
def InPlace.outcome {α : Type} (program : InPlace α) (state : NamingState) :
    Except Error α × NamingState :=
  program.run.run state

theorem InPlace.outcome_bind {α β : Type} (first : InPlace α) (next : α → InPlace β)
    (state : NamingState) : (first >>= next).outcome state =
      match first.outcome state with
      | (.ok value, middle) => (next value).outcome middle
      | (.error cause, middle) => (.error cause, middle) := by
  simp only [outcome, ExceptT.run_bind, StateT.run_bind]
  rcases StateT.run first.run state with ⟨cause | value, middle⟩ <;> rfl

/-- A request to give an entity a name. If it is not checked, rivals do not count. -/
structure Request where
  entity : EntityRef
  name : String
  checked : Bool

namespace Request

/-- Fails if the entity has a name. -/
def refuseSecond (graph : Graph) (request : Request) : InPlace Unit := do
  match (← get).names.get? request.entity with
  | some held => throw (.assignedTwice (graph.label request.entity) held request.name)
  | none => return

/-- Fails if a rival has the name. -/
def refuseRival (graph : Graph) (request : Request) : InPlace Unit := do
  match (← get).rivalHolder? graph request.entity request.name with
  | some holder =>
    throw (.nameTaken (graph.label request.entity) (graph.label holder) request.name)
  | none => return

/-- Looks at the state first, and then writes its two parts in turn. -/
def perform (graph : Graph) (request : Request) : InPlace Unit := do
  request.refuseSecond graph
  if request.checked then request.refuseRival graph
  modify fun state => { state with
    holders := state.holders.insert request.name
      (state.holdersOf request.name ++ [request.entity]) }
  modify fun state => { state with names := state.names.insert request.entity request.name }

/-- What comes of a request. -/
def answer (graph : Graph) (request : Request) (state : NamingState) : Except Error NamingState :=
  if request.checked then state.assign graph request.entity request.name
  else state.assignUnchecked graph request.entity request.name

theorem outcome_refuseSecond (request : Request) (state : NamingState) :
    (request.refuseSecond graph).outcome state =
      match state.names.get? request.entity with
      | some held =>
        (.error (.assignedTwice (graph.label request.entity) held request.name), state)
      | none => (.ok (), state) := by
  change ((match state.names.get? request.entity with
    | some held => throw (.assignedTwice (graph.label request.entity) held request.name)
    | none => return : InPlace Unit).outcome state) = _
  cases state.names.get? request.entity <;> rfl

theorem outcome_refuseRival (request : Request) (state : NamingState) :
    (request.refuseRival graph).outcome state =
      match state.rivalHolder? graph request.entity request.name with
      | some holder =>
        (.error (.nameTaken (graph.label request.entity) (graph.label holder) request.name), state)
      | none => (.ok (), state) := by
  change ((match state.rivalHolder? graph request.entity request.name with
    | some holder =>
      throw (.nameTaken (graph.label request.entity) (graph.label holder) request.name)
    | none => return : InPlace Unit).outcome state) = _
  cases state.rivalHolder? graph request.entity request.name <;> rfl

/-- In place a request has the same outcome, and when it fails the state is as it was. -/
theorem outcome_perform (request : Request) (state : NamingState) :
    (request.perform graph).outcome state =
      match request.answer graph state with
      | .ok next => (.ok (), next)
      | .error cause => (.error cause, state) := by
  unfold perform
  rw [InPlace.outcome_bind, outcome_refuseSecond]
  cases named : state.names.get? request.entity with
  | some held =>
    cases checked : request.checked <;> simp [answer, checked, assign, assignUnchecked, named]
  | none =>
    cases checked : request.checked with
    | false =>
      simp only [answer, checked, assignUnchecked, named]
      rfl
    | true =>
      simp only [answer, checked, assign, named, if_true]
      rw [InPlace.outcome_bind, outcome_refuseRival]
      cases state.rivalHolder? graph request.entity request.name <;> rfl

/-- A request that succeeds has found the entity unnamed, and is recorded. -/
theorem of_answer_eq_ok {request : Request} {next : NamingState}
    (ran : request.answer graph state = .ok next) :
    state.names.get? request.entity = none ∧ next = state.record request.entity request.name := by
  unfold answer at ran
  split at ran
  · obtain ⟨unnamed, -, recorded⟩ := assign_ok_iff.mp ran
    exact ⟨unnamed, recorded⟩
  · unfold assignUnchecked at ran
    cases unnamed : state.names.get? request.entity with
    | some held => simp [unnamed] at ran
    | none =>
      simp only [unnamed] at ran
      exact ⟨rfl, (Except.ok.inj ran).symm⟩

end Request

/-- Performs requests in turn, up to the first that fails. -/
def performAll (graph : Graph) : List Request → InPlace Unit
  | [] => return
  | request :: rest => do
    request.perform graph
    performAll graph rest

theorem outcome_performAll_cons (request : Request) (rest : List Request) (state : NamingState) :
    (performAll graph (request :: rest)).outcome state =
      match request.answer graph state with
      | .ok next => (performAll graph rest).outcome next
      | .error cause => (.error cause, state) := by
  rw [performAll, InPlace.outcome_bind, Request.outcome_perform]
  cases request.answer graph state <;> rfl

/-- What a request that succeeds preserves, requests in a row preserve, also when one fails. -/
theorem performAll_preserves {Holds : NamingState → Prop}
    (each : ∀ {request : Request} {state next : NamingState},
      request.answer graph state = .ok next → Holds state → Holds next)
    (held : Holds state) (requests : List Request) :
    Holds ((performAll graph requests).outcome state).2 := by
  induction requests generalizing state with
  | nil => exact held
  | cons request rest ih =>
    rw [outcome_performAll_cons]
    cases ran : request.answer graph state with
    | error cause => exact held
    | ok next => exact ih (each ran held)

/-- One more request, after requests that succeed. -/
theorem outcome_performAll_concat {requests : List Request} {state middle : NamingState}
    (ran : (performAll graph requests).outcome state = (.ok (), middle)) (last : Request) :
    (performAll graph (requests ++ [last])).outcome state =
      (last.perform graph).outcome middle := by
  induction requests generalizing state with
  | nil =>
    cases ran
    rw [List.nil_append, outcome_performAll_cons, Request.outcome_perform]
    cases last.answer graph middle <;> rfl
  | cons request rest ih =>
    rw [outcome_performAll_cons] at ran
    rw [List.cons_append, outcome_performAll_cons]
    cases first : request.answer graph state with
    | error cause => simp [first] at ran
    | ok next =>
      simp only [first] at ran ⊢
      exact ih ran

/-! ### The index -/

/-- Everybody stands in the index once, under the own name. -/
structure Indexed (state : NamingState) : Prop where
  coherent : state.Coherent
  once : ∀ name, (state.holdersOf name).Nodup

theorem indexed_start (graph : Graph) : Indexed (start graph) where
  coherent := coherent_start graph
  once name := by simp [start, holdersOf]

theorem Indexed.record (indexed : Indexed state) {entity : EntityRef}
    (unnamed : state.names.get? entity = none) (name : String) :
    Indexed (state.record entity name) where
  coherent := coherent_record indexed.coherent unnamed name
  once other := by
    rw [holdersOf_record]
    split
    · have new : entity ∉ state.holdersOf name := by
        rw [indexed.coherent, unnamed]
        simp
      exact List.concat_eq_append ▸ (indexed.once name).concat new
    · exact indexed.once other

/-- What the index is there for: it tells who has a name, whether a rival does, and a request that
fails leaves it and the names alone. -/
structure Exact (graph : Graph) (state : NamingState) : Prop where
  holds : ∀ name entity, entity ∈ state.holdersOf name ↔ state.names.get? entity = some name
  once : ∀ name entity, entity ∈ state.holdersOf name →
    (state.holdersOf name).count entity = 1
  rival : ∀ entity name, (state.rivalHolder? graph entity name).isSome = true ↔
    ∃ holder self other, state.names.get? holder = some name ∧ holder ≠ entity ∧
      graph.entity? entity = some self ∧ graph.entity? holder = some other ∧
      (other.home = self.home ∨ graph.forbids self.home other.home = true)
  named : ∀ entity name holder, state.rivalHolder? graph entity name = some holder →
    state.names.get? holder = some name ∧ areRivals graph entity holder = true
  refused : ∀ (request : Request) (cause : Error) (after : NamingState),
    (request.perform graph).outcome state = (.error cause, after) →
      request.answer graph state = .error cause ∧ after = state

theorem Indexed.exact (indexed : Indexed state) : Exact graph state where
  holds name entity := @indexed.coherent name entity
  once name entity listed := List.count_eq_one_of_mem (indexed.once name) listed
  rival entity name := by
    rw [rivalHolder?, List.find?_isSome]
    constructor
    · rintro ⟨holder, listed, rivals⟩
      obtain ⟨self, other, found, there, differ, near⟩ := areRivals_iff.mp rivals
      exact ⟨holder, self, other, indexed.coherent.mp listed, differ, found, there, near⟩
    · rintro ⟨holder, self, other, held, differ, found, there, near⟩
      exact ⟨holder, indexed.coherent.mpr held,
        areRivals_iff.mpr ⟨self, other, found, there, differ, near⟩⟩
  named entity name holder := of_rivalHolder?_eq_some indexed.coherent
  refused request cause after failed := by
    rw [Request.outcome_perform] at failed
    cases ran : request.answer graph state with
    | error other =>
      simp only [ran] at failed
      cases failed
      exact ⟨rfl, rfl⟩
    | ok next => simp [ran] at failed

theorem exact_performAll (graph : Graph) (requests : List Request) :
    Exact graph ((performAll graph requests).outcome (start graph)).2 := by
  refine Indexed.exact (performAll_preserves ?_ (indexed_start graph) requests)
  intro request state next ran indexed
  obtain ⟨unnamed, rfl⟩ := Request.of_answer_eq_ok ran
  exact indexed.record unnamed request.name

/-! ### The states of a run -/

/-- The state is what requests lead to that all succeed. -/
def Granted (graph : Graph) (state : NamingState) : Prop :=
  ∃ requests, (performAll graph requests).outcome (start graph) = (.ok (), state)

/-- The names are those of such a state. -/
def Seen (graph : Graph) (names : Names) : Prop :=
  ∃ state, Granted graph state ∧ state.names = names

theorem Granted.seen (granted : Granted graph state) : Seen graph state.names :=
  ⟨state, granted, rfl⟩

theorem Granted.exact (granted : Granted graph state) : Exact graph state := by
  obtain ⟨requests, led⟩ := granted
  simpa only [led] using exact_performAll graph requests

theorem Granted.next {next : NamingState} (granted : Granted graph state) (request : Request)
    (ran : request.answer graph state = .ok next) : Granted graph next := by
  obtain ⟨requests, led⟩ := granted
  refine ⟨requests ++ [request], ?_⟩
  rw [outcome_performAll_concat led, Request.outcome_perform, ran]

theorem granted_of_assignAll {next : NamingState} (granted : Granted graph state)
    (ran : assignAll graph state pairs = .ok next) : Granted graph next := by
  induction pairs generalizing state with
  | nil =>
    cases ran
    exact granted
  | cons pair rest ih =>
    obtain ⟨entity, name⟩ := pair
    simp only [assignAll] at ran
    cases assigned : state.assign graph entity name with
    | error cause => simp [assigned] at ran
    | ok middle =>
      simp only [assigned] at ran
      exact ih (granted.next ⟨entity, name, true⟩ assigned) ran

theorem granted_of_assignIfFixed {next : NamingState} (granted : Granted graph state)
    (ran : assignIfFixed graph state member = .ok next) : Granted graph next := by
  unfold assignIfFixed at ran
  split at ran
  · rename_i name found
    exact granted.next ⟨member, name, false⟩ ran
  · cases ran
    exact granted

theorem granted_of_assignFixed (ran : assignFixed graph forest = .ok state) :
    Granted graph state := by
  rw [assignFixed_eq_foldlM] at ran
  exact except_foldlM_ok (fun _ state => Granted graph state)
    (fun granted ran => granted_of_assignIfFixed granted ran) ⟨[], rfl⟩ ran

/-- Every call is made with names that were granted, and what comes out satisfies `Holds`. -/
structure Traced {α : Type} (graph : Graph) (Holds : α → Prop) (run : Logged α) : Prop where
  calls : ∀ call ∈ run.calls, Seen graph call.held
  ends : ∀ value, run.result = .ok value → Holds value

namespace Traced
variable {α β : Type} {Holds : α → Prop} {Then : β → Prop}

theorem of {result : Except Error α} (ends : ∀ value, result = .ok value → Holds value) :
    Traced graph Holds (.of result) where
  calls call made := by cases made
  ends := ends

theorem pure (holds : Holds value) : Traced graph Holds (Pure.pure value : Logged α) :=
  of fun _ same => Except.ok.inj same ▸ holds

theorem bind {first : Logged α} {next : α → Logged β} (traced : Traced graph Holds first)
    (later : ∀ value, Holds value → Traced graph Then (next value)) :
    Traced graph Then (first >>= next) := by
  cases ended : first.result with
  | error cause =>
    refine ⟨?_, fun value ran => ?_⟩
    · rw [Logged.bind_of_error ended]
      exact traced.calls
    · obtain ⟨middle, ran, -⟩ := Logged.bind_ok ran
      rw [ended] at ran
      cases ran
  | ok value =>
    have rest := later value (traced.ends value ended)
    refine ⟨?_, fun final ran => ?_⟩
    · rw [Logged.bind_of_ok ended, List.forall_mem_append]
      exact ⟨traced.calls, rest.calls⟩
    · obtain ⟨middle, early, late, -⟩ := Logged.bind_ok ran
      obtain rfl : value = middle := Except.ok.inj (ended.symm.trans early)
      exact rest.ends final late

theorem foldlM {f : α → β → Logged α}
    (each : ∀ value item, Holds value → Traced graph Holds (f value item))
    (start : Holds value) (items : List β) : Traced graph Holds (items.foldlM f value) := by
  induction items generalizing value with
  | nil => exact .pure start
  | cons item rest ih =>
    rw [List.foldlM_cons]
    exact (each value item start).bind fun _ holds => ih holds

end Traced

variable {guarded : Bool}

theorem traced_nameBatch (space : NamespaceRef) (current : NamingState × NameSet) (batch : Batch)
    (granted : Granted graph current.1) :
    Traced graph (fun after => Granted graph after.1)
      (nameBatch graph guarded space current batch) where
  calls call made := by
    rcases calls_nameBatch graph guarded space current batch with silent | single
    · simp [silent] at made
    · rw [single, List.mem_singleton] at made
      exact made ▸ granted.seen
  ends after ran := by
    obtain ⟨answer, done⟩ := nameBatch_ok ran
    exact granted_of_assignAll granted done.assigned

theorem traced_round (granted : Granted graph state) (space : NamespaceRef)
    (ready : List EntityRef) :
    Traced graph (Granted graph) (round graph guarded state space ready) :=
  .bind (.of fun _ _ => trivial) fun batches _ =>
    .bind (.foldlM (traced_nameBatch space) granted batches) fun _ granted => .pure granted

theorem traced_rounds (granted : Granted graph state) :
    Traced graph (fun last => Granted graph last.1)
      (rounds graph guarded forest fuel done state) := by
  induction fuel generalizing state done with
  | zero => exact .pure granted
  | succ fuel ih =>
    unfold rounds
    split
    · exact .pure granted
    · exact (traced_round granted _ _).bind fun _ granted => ih granted

theorem traced_resolve (graph : Graph) (guarded : Bool) (roots : List NamespaceRef) :
    Traced graph (fun resolution => Seen graph resolution.names) (graph.resolve guarded roots) :=
  .bind (.of fun _ _ => trivial) fun _ _ =>
    .bind (.of fun _ _ => trivial) fun _ _ =>
      .bind (.of fun _ ran => granted_of_assignFixed ran) fun _ granted =>
        .bind (traced_rounds granted) fun _ granted => .pure granted.seen

/-- **The reverse index is exact.** Let fixed and checked names be given in any order, on any graph,
to the end or up to the first refusal: an entity stands in the index under a name if and only if it
has that name, and then once. So a rival is found exactly when another entity has the name, in the
entity's own namespace or in one that this forbids; and a refused request changes neither the names
nor the index. This holds after the fixed names of a run and after each of its rounds, and the names
held when a naming function is called, or at the end, are those of such a state. -/
theorem reverse_index_is_exact (graph : Graph) :
    (∀ requests, Exact graph ((performAll graph requests).outcome (start graph)).2) ∧
    (∀ guarded forest fixed, assignFixed graph forest = .ok fixed →
      ∀ fuel final count, (rounds graph guarded forest fuel 0 fixed).result = .ok (final, count) →
        Exact graph final) ∧
    ∀ guarded roots,
      (∀ call ∈ (graph.resolve guarded roots).calls, Seen graph call.held) ∧
      ∀ resolution, (graph.resolve guarded roots).result = .ok resolution →
        Seen graph resolution.names := by
  refine ⟨exact_performAll graph, ?_, ?_⟩
  · intro guarded forest fixed began fuel final count ran
    exact Granted.exact ((traced_rounds (granted_of_assignFixed began)).ends _ ran)
  · intro guarded roots
    have traced := traced_resolve graph guarded roots
    exact ⟨traced.calls, traced.ends⟩

/-- A word that two lists reserve, and a type that asks for it and may clash with neither. -/
def reservedTwice : List BuildStep := [
  .function (Counting.names '_'),
  .keywords "first" ["type"],
  .keywords "second" ["type"],
  .space { name := "types", forbidden := [⟨0⟩, ⟨1⟩] },
  .simple ⟨2⟩ ⟨0⟩ "type"]

/-- Both words stand in the index and keep the type from the same name; a run gives it another. -/
theorem both_words_are_indexed : ∃ state resolution,
    (performAll (Graph.ofSteps reservedTwice)
        [⟨⟨0⟩, "type", false⟩, ⟨⟨1⟩, "type", false⟩, ⟨⟨2⟩, "type", true⟩]).outcome
          (start (Graph.ofSteps reservedTwice)) =
      (.error (.nameTaken ⟨"type", ⟨2⟩⟩ ⟨"type", ⟨0⟩⟩ "type"), state) ∧
    state.holdersOf "type" = [⟨0⟩, ⟨1⟩] ∧ Exact (Graph.ofSteps reservedTwice) state ∧
    ((Graph.ofSteps reservedTwice).resolve true [⟨0⟩, ⟨1⟩, ⟨2⟩]).result = .ok resolution ∧
    resolution.names.get? ⟨2⟩ = some "type_" ∧
    Seen (Graph.ofSteps reservedTwice) resolution.names := by
  obtain ⟨exact, -, runs⟩ := reverse_index_is_exact (Graph.ofSteps reservedTwice)
  obtain ⟨resolution, ran, named⟩ := exists_ok_of_any
    ((Graph.ofSteps reservedTwice).resolve true [⟨0⟩, ⟨1⟩, ⟨2⟩]).result
    (fun resolution => resolution.names.get? ⟨2⟩ = some "type_") (by decide +kernel)
  refine ⟨_, resolution, rfl, by decide +kernel,
    exact [⟨⟨0⟩, "type", false⟩, ⟨⟨1⟩, "type", false⟩, ⟨⟨2⟩, "type", true⟩], ran,
    of_decide_eq_true named, (runs true _).2 resolution ran⟩

end NameAssignment.ReverseIndex
