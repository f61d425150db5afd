import NameAssignment.Proofs.Counting
import NameAssignment.Proofs.Ledger
import NameAssignment.Proofs.Validity

/-! Every failure is the fault of the last call. On a valid graph and known roots, a naming run
fails only because the naming function called last fails itself or breaks its contract, or, in an
unguarded run, because it gives a name that a sibling has. So a guarded run does not fail if its
naming functions keep their contract. -/
namespace NameAssignment.Attribution
open NamingState

/-- How an answer really breaks the contract when the audit says that it does. -/
inductive Breaks (call : NamingCall) (answer : List String) : ContractViolation → Prop
  | wrongCount (differ : answer.length ≠ call.batch.members.length) :
      Breaks call answer (.wrongCount call.batch.function call.batch.proposed answer.length
        call.batch.members.length)
  | repeatedName (repeated : ¬ answer.Nodup) :
      Breaks call answer (.repeatedName call.batch.function call.batch.proposed answer)
  | forbiddenName (given : name ∈ answer) (forbidden : call.forbidden.contains name = true) :
      Breaks call answer (.forbiddenName call.batch.function call.batch.proposed name)

/-- What the naming function of a call gives when it is called. -/
def Replies (graph : Graph) (call : NamingCall) (reply : Except Error (List String)) : Prop :=
  ∃ function, graph.function? call.batch.function = some function ∧
    function call.batch.proposed call.forbidden call.batch.members.length = reply

/-- The errors for which a call is to blame. -/
inductive Blames (graph : Graph) (guarded : Bool) (call : NamingCall) : Error → Prop
  /-- The naming function fails itself, with that error. -/
  | refused (replied : Replies graph call (.error cause)) : Blames graph guarded call cause
  /-- Its answer breaks the contract. -/
  | violated (replied : Replies graph call (.ok answer)) (broken : Breaks call answer violation) :
      Blames graph guarded call (.contract violation)
  /-- Only unguarded: it gives to a member of the batch a name that another entity of the same
  namespace had when the call was made. -/
  | taken (unguarded : guarded = false) (replied : Replies graph call (.ok answer))
      (given : (entity, name) ∈ call.batch.members.zip answer)
      (held : call.held.get? holder = some name) (differ : holder ≠ entity)
      (foundEntity : graph.entity? entity = some self)
      (foundHolder : graph.entity? holder = some other) (sibling : other.home = self.home) :
      Blames graph guarded call (.nameTaken (graph.label entity) (graph.label holder) name)

variable {graph : Graph} {forest : List NamespaceRef} {space : NamespaceRef} {guarded : Bool}
  {state : NamingState} {ready : List EntityRef} {answer : List String} {cause : Error}

/-- A call has one reply. -/
theorem Replies.unique {call : NamingCall} {first second : Except Error (List String)}
    (one : Replies graph call first) (other : Replies graph call second) : first = second := by
  obtain ⟨function, found, rfl⟩ := one
  obtain ⟨same, again, rfl⟩ := other
  obtain rfl : function = same := Option.some.inj (found.symm.trans again)
  rfl

/-- The audit refuses an answer for a reason that the answer gives. -/
theorem breaks_of_audit (call : NamingCall)
    (refused : NamingFunction.audit call.batch.function call.batch.proposed call.forbidden
      call.batch.members.length answer = .error cause) :
    ∃ violation, cause = .contract violation ∧ Breaks call answer violation := by
  unfold NamingFunction.audit at refused
  split at refused
  · rename_i differ
    cases refused
    exact ⟨_, rfl, .wrongCount differ⟩
  · split at refused
    · rename_i repeated
      cases refused
      exact ⟨_, rfl, .repeatedName repeated⟩
    · cases search : answer.find? call.forbidden.contains with
      | none => simp [search] at refused
      | some name =>
        rw [search] at refused
        cases refused
        exact ⟨_, rfl, .forbiddenName (List.mem_of_find?_eq_some search) (List.find?_some search)⟩

/-! ### A batch -/

/-- A list of assignments fails at one of them, after those before it. -/
theorem assignAll_error (failed : assignAll graph state pairs = .error cause) :
    ∃ earlier pair later middle, pairs = earlier ++ pair :: later ∧
      assignAll graph state earlier = .ok middle ∧
        middle.assign graph pair.1 pair.2 = .error cause := by
  induction pairs generalizing state with
  | nil => cases failed
  | cons pair rest ih =>
    obtain ⟨entity, name⟩ := pair
    simp only [assignAll] at failed
    cases assigned : state.assign graph entity name with
    | error reason =>
      simp only [assigned] at failed
      cases failed
      exact ⟨[], (entity, name), rest, state, rfl, rfl, assigned⟩
    | ok next =>
      simp only [assigned] at failed
      obtain ⟨earlier, pair, later, middle, rfl, ran, refused⟩ := ih failed
      exact ⟨(entity, name) :: earlier, pair, later, middle, rfl,
        by simp [assignAll, assigned, ran], refused⟩

/-- An unnamed entity is refused a name only for a rival that holds it. -/
theorem assign_error (coherent : state.Coherent) (unnamed : state.names.get? entity = none)
    (refused : state.assign graph entity name = .error cause) :
    ∃ holder, cause = .nameTaken (graph.label entity) (graph.label holder) name ∧
      state.names.get? holder = some name ∧ areRivals graph entity holder = true := by
  unfold assign at refused
  simp only [unnamed] at refused
  cases search : state.rivalHolder? graph entity name with
  | none => simp [search] at refused
  | some holder =>
    simp only [search] at refused
    cases refused
    obtain ⟨held, rivals⟩ := of_rivalHolder?_eq_some coherent search
    exact ⟨holder, rfl, held, rivals⟩

/-- In a sound answer no entity and no name stands twice among the pairs to be assigned. -/
theorem apart_of_audit {members : List EntityRef} (once : members.Nodup)
    (audited : NamingFunction.audit function proposed forbidden members.length answer = .ok ())
    (split : members.zip answer = earlier ++ (entity, name) :: later) :
    (∀ given, (entity, given) ∉ earlier) ∧ ∀ holder, (holder, name) ∉ earlier := by
  obtain ⟨count, distinct, -⟩ := NamingFunction.audit_eq_ok_iff.mp audited
  have firsts : ((members.zip answer).map Prod.fst).Nodup := by
    rw [List.map_fst_zip (by omega)]
    exact once
  have seconds : ((members.zip answer).map Prod.snd).Nodup := by
    rw [List.map_snd_zip (by omega)]
    exact distinct
  rw [split, List.map_append, List.map_cons, List.nodup_append] at firsts seconds
  constructor
  · intro given listed
    exact firsts.2.2 entity (List.mem_map.mpr ⟨_, listed, rfl⟩) entity List.mem_cons_self rfl
  · intro holder listed
    exact seconds.2.2 name (List.mem_map.mpr ⟨_, listed, rfl⟩) name List.mem_cons_self rfl

/-- A name that is not forbidden can be held in the namespace itself, if the run is unguarded, and
in no other that must be avoided. -/
theorem sibling_of_allowed (guards : Guards graph guarded space state.names forbidden)
    (allowed : forbidden.contains name = false) (held : state.names.get? holder = some name)
    (found : graph.entity? holder = some other)
    (avoid : other.home = space ∨ graph.forbids space other.home = true) :
    guarded = false ∧ other.home = space := by
  have sibling : other.home = space := by
    rcases avoid with same | forbids
    · exact same
    · by_contra apart
      have covered := guards.elsewhere held found forbids apart
      rw [allowed] at covered
      cases covered
  cases guarded with
  | false => exact ⟨rfl, sibling⟩
  | true =>
    have covered := guards.own rfl held found sibling
    rw [allowed] at covered
    cases covered

/-- A sound answer is refused only in an unguarded run, and for a sibling that had the name before
the batch. Within the batch the names differ, and what the forbidden names guard against the audit
has found. -/
theorem sibling_of_assignAll_error (linked : graph.Linked) (orderly : Orderly graph forest state)
    (due : Due graph forest space ready state.names)
    (guards : Guards graph guarded space state.names forbidden) {members : List EntityRef}
    (inside : ∀ member ∈ members, member ∈ ready) (once : members.Nodup)
    (fresh : ∀ member ∈ members, state.names.get? member = none)
    (audited : NamingFunction.audit function proposed forbidden members.length answer = .ok ())
    (failed : assignAll graph state (members.zip answer) = .error cause) :
    guarded = false ∧ ∃ entity name holder self other,
      cause = .nameTaken (graph.label entity) (graph.label holder) name ∧
      (entity, name) ∈ members.zip answer ∧ state.names.get? holder = some name ∧
      holder ≠ entity ∧ graph.entity? entity = some self ∧ graph.entity? holder = some other ∧
      other.home = self.home := by
  obtain ⟨earlier, ⟨entity, name⟩, later, middle, split, ran, refused⟩ := assignAll_error failed
  have pair : (entity, name) ∈ members.zip answer := by simp [split]
  have within : ∀ pair ∈ earlier, pair.1 ∈ ready := by
    intro other listed
    have zipped : other ∈ members.zip answer := split ▸ List.mem_append_left _ listed
    exact inside _ (List.of_mem_zip zipped).1
  obtain ⟨run, adds⟩ := assignAll_run due within ran
  obtain ⟨-, -, allowed⟩ := NamingFunction.audit_eq_ok_iff.mp audited
  obtain ⟨entityNew, nameNew⟩ := apart_of_audit once audited split
  have unnamed : middle.names.get? entity = none := by
    cases held : middle.names.get? entity with
    | none => rfl
    | some given =>
      rcases adds.mp held with before | listed
      · rw [fresh entity (List.of_mem_zip pair).1] at before
        cases before
      · exact absurd listed (entityNew given)
  obtain ⟨holder, named, heldThen, rivals⟩ :=
    assign_error (orderly.reach linked run).coherent unnamed refused
  have held : state.names.get? holder = some name :=
    (adds.mp heldThen).resolve_right (nameNew holder)
  obtain ⟨self, other, foundEntity, foundHolder, differ, avoid⟩ := areRivals_iff.mp rivals
  have home : self.home = space :=
    linked.home_eq (due.member entity (inside entity (List.of_mem_zip pair).1)) foundEntity
  rw [home] at avoid
  obtain ⟨unguarded, sibling⟩ :=
    sibling_of_allowed guards (allowed name (List.of_mem_zip pair).2) held foundHolder avoid
  exact ⟨unguarded, entity, name, holder, self, other, named, pair, held, differ, foundEntity,
    foundHolder, sibling.trans home.symm⟩

/-- A batch that fails makes one call, which is to blame. -/
theorem nameBatch_blames (linked : graph.Linked) (orderly : Orderly graph forest origin)
    (known : (graph.function? batch.function).isSome = true) {current : NamingState × NameSet}
    (guarding : Guarding graph forest guarded space ready origin (batch :: rest) current)
    (failed : (nameBatch graph guarded space current batch).result = .error cause) :
    (nameBatch graph guarded space current batch).calls =
        [⟨space, batch, current.2, current.1.names⟩] ∧
      Blames graph guarded ⟨space, batch, current.2, current.1.names⟩ cause := by
  obtain ⟨function, found⟩ := Option.isSome_iff_exists.1 known
  let call : NamingCall := ⟨space, batch, current.2, current.1.names⟩
  refine ⟨by simp [nameBatch, found, Logged.call], ?_⟩
  simp only [nameBatch, found, Logged.call] at failed
  rcases except_bind_error failed with refused | ⟨answer, answered, failed⟩
  · exact .refused ⟨function, found, refused⟩
  have replied : Replies graph call (.ok answer) := ⟨function, found, answered⟩
  rcases except_bind_error failed with refused | ⟨⟨⟩, audited, failed⟩
  · obtain ⟨violation, rfl, broken⟩ := breaks_of_audit call refused
    exact .violated replied broken
  rcases except_bind_error failed with refused | ⟨assigned, -, failed⟩
  · have here : ∀ member ∈ batch.members, member ∈ (batch :: rest).flatMap (·.members) := by
      intro member inside
      rw [List.flatMap_cons]
      exact List.mem_append_left _ inside
    have once := guarding.once
    rw [List.flatMap_cons, List.nodup_append] at once
    obtain ⟨unguarded, entity, name, holder, self, other, rfl, given, held, differ, foundEntity,
      foundHolder, sibling⟩ := sibling_of_assignAll_error linked
        (orderly.reach linked guarding.underway.run) guarding.underway.due guarding.guards
        (guarding.underway.inside batch List.mem_cons_self) once.1
        (fun member inside => guarding.fresh member (here member inside)) audited refused
    exact .taken unguarded replied given held differ foundEntity foundHolder sibling
  · cases failed

/-! ### Rounds -/

/-- The last call that a computation made is to blame for its failure. -/
def LastBlamed (graph : Graph) (guarded : Bool) (calls : List NamingCall) (cause : Error) : Prop :=
  ∃ earlier call, calls = earlier ++ [call] ∧ call.batch.members ≠ [] ∧
    Blames graph guarded call cause

theorem LastBlamed.after (blamed : LastBlamed graph guarded calls cause)
    (before : List NamingCall) : LastBlamed graph guarded (before ++ calls) cause := by
  obtain ⟨earlier, call, rfl, nonempty, blames⟩ := blamed
  exact ⟨before ++ earlier, call, by simp, nonempty, blames⟩

theorem round_blames (linked : graph.Linked) (valid : graph.Valid)
    (orderly : Orderly graph forest state)
    (picked : graph.next? state.names forest = some (space, ready))
    (failed : (NamingState.round graph guarded state space ready).result = .error cause) :
    LastBlamed graph guarded (NamingState.round graph guarded state space ready).calls cause := by
  obtain ⟨batch, rest, current, made, posting, refused, logged⟩ :=
    round_error linked orderly picked failed
  have fits := posting.fits batch List.mem_cons_self
  obtain ⟨entity, inside⟩ := List.exists_mem_of_ne_nil _ fits.nonempty
  obtain ⟨record, found, asked, -⟩ := fits.asks entity inside
  obtain ⟨single, blames⟩ :=
    nameBatch_blames linked orderly (valid.function found asked) posting.guarding refused
  exact ⟨made, _, by rw [logged, single], fits.nonempty, blames⟩

theorem rounds_blames (linked : graph.Linked) (valid : graph.Valid)
    (orderly : Orderly graph forest state)
    (failed : (rounds graph guarded forest fuel done state).result = .error cause) :
    LastBlamed graph guarded (rounds graph guarded forest fuel done state).calls cause := by
  obtain ⟨middle, space, ready, earlier, run, picked, refused, logged⟩ :=
    rounds_error linked orderly failed
  rw [logged]
  exact (round_blames linked valid (orderly.reach linked run) picked refused).after earlier

/-- On a valid graph and known roots every failure is the fault of the last call. -/
theorem resolve_blames (linked : graph.Linked) (valid : graph.Valid) {roots : List NamespaceRef}
    (known : ∀ root ∈ roots, (graph.namespace? root).isSome = true)
    (failed : (graph.resolve guarded roots).result = .error cause) :
    LastBlamed graph guarded (graph.resolve guarded roots).calls cause := by
  obtain ⟨forest, flattened, -⟩ := Graph.flatten_of_known linked known
  have once := Graph.nodup_flatten flattened
  obtain ⟨fixed, began, holdsFixed⟩ := assignFixed_holdsFixed linked once
  rw [Graph.resolve_eq_rounds (Graph.validate_ok_iff.mpr valid) flattened began] at failed ⊢
  rcases Logged.bind_error failed with ⟨looped, logged⟩ | ⟨last, -, failed, -⟩
  · rw [logged]
    exact rounds_blames linked valid holdsFixed.orderly looped
  · cases failed

/-! ### No failure of its own -/

/-- The failures that blame the order in which names are given, or the graph. -/
def IsInternal : Error → Prop
  | .assignedTwice _ _ _ | .dependencyUnnamed _ _ | .dangling _ => True
  | _ => False

/-- Such a failure can only be one that the naming function returned itself. -/
theorem Blames.of_isInternal {call : NamingCall} (blames : Blames graph guarded call cause)
    (internal : IsInternal cause) : Replies graph call (.error cause) := by
  cases blames with
  | refused replied => exact replied
  | violated _ _ => exact internal.elim
  | taken _ _ _ _ _ _ _ _ => exact internal.elim

/-- A call of a reliable function for somebody is to blame for one thing only: in an unguarded run
it can give out the name of a sibling. -/
theorem taken_of_reliable {call : NamingCall} (nonempty : call.batch.members ≠ [])
    (reliable : ∀ function, graph.function? call.batch.function = some function →
      function.Reliable) (blames : Blames graph guarded call cause) :
    guarded = false ∧ ∃ answer entity name holder self other,
      cause = .nameTaken (graph.label entity) (graph.label holder) name ∧
      Replies graph call (.ok answer) ∧
      (∀ given ∈ answer, call.forbidden.contains given = false) ∧
      (entity, name) ∈ call.batch.members.zip answer ∧ call.held.get? holder = some name ∧
      graph.entity? entity = some self ∧ graph.entity? holder = some other ∧
      other.home = self.home := by
  have asked : 0 < call.batch.members.length := List.length_pos_iff.mpr nonempty
  -- The reply is an answer, and one that keeps the contract.
  have sound {reply : Except Error (List String)} (replied : Replies graph call reply) :
      ∃ answer, reply = .ok answer ∧ answer.length = call.batch.members.length ∧ answer.Nodup ∧
        ∀ name ∈ answer, call.forbidden.contains name = false := by
    obtain ⟨function, found, rfl⟩ := replied
    exact reliable function found call.batch.proposed call.forbidden _ asked
  cases blames with
  | refused replied =>
    obtain ⟨answer, failed, -⟩ := sound replied
    cases failed
  | violated replied broken =>
    obtain ⟨answer, same, count, distinct, allowed⟩ := sound replied
    cases same
    cases broken with
    | wrongCount differ => exact absurd count differ
    | repeatedName repeated => exact absurd distinct repeated
    | forbiddenName given forbidden =>
      rw [allowed _ given] at forbidden
      cases forbidden
  | @taken answer entity name holder self other unguarded replied given held _ foundEntity
      foundHolder sibling =>
    obtain ⟨_, same, -, -, allowed⟩ := sound replied
    cases same
    exact ⟨unguarded, answer, entity, name, holder, self, other, rfl, replied, allowed, given, held,
      foundEntity, foundHolder, sibling⟩

/-- If all naming functions are reliable, a guarded run does not fail. -/
theorem resolve_ok_of_reliable (linked : graph.Linked) (valid : graph.Valid)
    {roots : List NamespaceRef} (known : ∀ root ∈ roots, (graph.namespace? root).isSome = true)
    (reliable : ∀ handle function, graph.function? handle = some function → function.Reliable) :
    ∃ resolution, (graph.resolve true roots).result = .ok resolution := by
  cases ended : (graph.resolve true roots).result with
  | ok resolution => exact ⟨resolution, rfl⟩
  | error cause =>
    obtain ⟨earlier, call, -, nonempty, blames⟩ := resolve_blames linked valid known ended
    obtain ⟨unguarded, -⟩ :=
      taken_of_reliable nonempty (fun function => reliable _ function) blames
    cases unguarded

/-- **Every failure is the fault of the last call.** An accepted graph with known roots is named, or
the naming function called last failed with that error, or its answer broke the contract, or, only
unguarded, its answer gave out the name of a sibling. A guarded run does not fail if the functions
are reliable. -/
theorem failures_are_attributable (steps : List BuildStep) (guarded : Bool)
    (roots : List NamespaceRef) (accepted : (Graph.ofSteps steps).validate = .ok ())
    (known : ∀ root ∈ roots, ((Graph.ofSteps steps).namespace? root).isSome = true) :
    (∀ cause, ((Graph.ofSteps steps).resolve guarded roots).result = .error cause →
      ∃ call, ((Graph.ofSteps steps).resolve guarded roots).calls.getLast? = some call ∧
        Blames (Graph.ofSteps steps) guarded call cause ∧
          (IsInternal cause → Replies (Graph.ofSteps steps) call (.error cause))) ∧
    (guarded = true →
      (∀ handle function, (Graph.ofSteps steps).function? handle = some function →
        function.Reliable) →
      ∃ resolution, ((Graph.ofSteps steps).resolve guarded roots).result = .ok resolution) := by
  have linked := Graph.linked_ofSteps steps
  have valid := Graph.validate_ok_iff.mp accepted
  constructor
  · intro cause failed
    obtain ⟨earlier, call, logged, -, blames⟩ := resolve_blames linked valid known failed
    exact ⟨call, by simp [logged], blames, blames.of_isInternal⟩
  · rintro rfl reliable
    exact resolve_ok_of_reliable linked valid known reliable

/-- Two siblings that ask one naming function for different names. -/
def siblings (function : NamingFunction) : List BuildStep := [
  .function function,
  .space { name := "fields" },
  .simple ⟨0⟩ ⟨0⟩ "left",
  .simple ⟨0⟩ ⟨0⟩ "right"]

/-- A naming function that gives everybody the same name. -/
def alwaysX : NamingFunction := fun _ _ count => .ok (List.replicate count "x")

/-- The second sibling does not get the name of the first, and its call is to blame; a guarded run
that counts does not fail. -/
theorem sibling_is_refused :
    (∃ call, ((Graph.ofSteps (siblings alwaysX)).resolve false [⟨0⟩]).calls.getLast? = some call ∧
      Blames (Graph.ofSteps (siblings alwaysX)) false call
        (.nameTaken ⟨"right", ⟨1⟩⟩ ⟨"left", ⟨0⟩⟩ "x")) ∧
    ∃ resolution, ((Graph.ofSteps (siblings (Counting.names '_'))).resolve true [⟨0⟩]).result =
      .ok resolution := by
  constructor
  · have failed : ((Graph.ofSteps (siblings alwaysX)).resolve false [⟨0⟩]).result =
        .error (.nameTaken ⟨"right", ⟨1⟩⟩ ⟨"left", ⟨0⟩⟩ "x") := rfl
    obtain ⟨call, last, blames, -⟩ := (failures_are_attributable (siblings alwaysX) false [⟨0⟩]
      (by decide +kernel) (by decide)).1 _ failed
    exact ⟨call, last, blames⟩
  · apply (failures_are_attributable (siblings (Counting.names '_')) true [⟨0⟩]
      (by decide +kernel) (by decide)).2 rfl
    intro handle function found
    have listed : function ∈ #[Counting.names '_'] := Array.mem_of_getElem? found
    obtain rfl : function = Counting.names '_' := by simpa using listed
    exact Counting.reliable_names '_'

end NameAssignment.Attribution
