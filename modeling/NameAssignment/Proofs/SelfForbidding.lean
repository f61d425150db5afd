import Mathlib.Data.List.Flatten
import NameAssignment.Proofs.Modes

/-! Namespaces that forbid themselves. In an unguarded run such a namespace avoids what its members
were called when the round began, but not what the round itself gives out. The run fails exactly if
two batches of one round are given a name in common, and nothing keeps batches from that: they can
have the same proposal and different naming functions. -/
namespace NameAssignment.SelfForbidding
open NamingState Attribution Modes

variable {graph : Graph} {forest roots : List NamespaceRef} {space : NamespaceRef}
  {state : NamingState} {ready : List EntityRef} {cause : Error}

/-- A name is in the answer to a call. -/
def Gives (graph : Graph) (call : NamingCall) (name : String) : Prop :=
  ∃ answer, Replies graph call (.ok answer) ∧ name ∈ answer

/-- Two calls of one round give a name to a member of each of their batches. Calls for one namespace
with the same forbidden names are of one round, for what a round gives is forbidden to the next. -/
structure Clash (graph : Graph) (holder entity : EntityRef) (name : String)
    (first second : NamingCall) : Prop where
  home : first.home = second.home
  forbidden : first.forbidden = second.forbidden
  holder : holder ∈ first.batch.members
  entity : entity ∈ second.batch.members
  firstGives : Gives graph first name
  secondGives : Gives graph second name

/-! ### A failure is a clash -/

/-- A round fails because its last batch is given what an earlier batch of it was given. What was
held before the round is forbidden, for the namespace forbids itself. -/
theorem round_clashes (linked : graph.Linked) (valid : graph.Valid) (counts : Counts graph)
    (orderly : Orderly graph forest state)
    (picked : graph.next? state.names forest = some (space, ready))
    (forbidsItself : graph.forbids space space = true)
    (failed : (round graph false state space ready).result = .error cause) :
    ∃ made first second holder entity name,
      (round graph false state space ready).calls = made ++ [second] ∧ first ∈ made ∧
      cause = .nameTaken (graph.label entity) (graph.label holder) name ∧
      Clash graph holder entity name first second := by
  obtain ⟨batch, rest, current, made, posting, refused, logged⟩ :=
    round_error linked orderly picked failed
  have fits := posting.fits batch List.mem_cons_self
  obtain ⟨member, inside⟩ := List.exists_mem_of_ne_nil _ fits.nonempty
  obtain ⟨record, found, asked, -⟩ := fits.asks member inside
  obtain ⟨single, blames⟩ :=
    nameBatch_blames linked orderly (valid.function found asked) posting.guarding refused
  obtain ⟨-, answer, entity, name, holder, self, other, taken, replied, allowed, given, held,
    foundEntity, foundHolder, sibling⟩ :=
      taken_of_reliable fits.nonempty (fun function => counts.reliable _ function) blames
  obtain ⟨listed, answered⟩ := List.of_mem_zip given
  have home : other.home = space :=
    sibling.trans (linked.home_eq (fits.ordered.subset listed) foundEntity)
  obtain ⟨begun, same⟩ := posting.steady rfl
  rcases posting.ledger.covered held with atStart | ⟨first, earlier, named⟩
  · have inSpace : holder ∈ graph.members space :=
      home ▸ orderly.member_home linked atStart foundHolder
    have forbidden : current.2.contains name = true := by
      rw [begun]
      exact contains_forbiddenNames_iff.mpr
        ⟨space, .inl ((linked.forbids_iff _ _).mp forbidsItself), holder, inSpace, atStart⟩
    have clear : current.2.contains name = false := allowed name answered
    rw [clear] at forbidden
    cases forbidden
  · obtain ⟨firstAnswer, served⟩ := posting.ledger.served first earlier
    obtain ⟨heldName, pair, heldNow⟩ := served.name_of_mem named
    obtain rfl : name = heldName := Option.some.inj (held.symm.trans heldNow)
    refine ⟨made, first, _, holder, entity, name, by rw [logged, single], earlier, taken, ?_⟩
    exact
      { home := posting.home first earlier
        forbidden := same first earlier
        holder := named
        entity := listed
        firstGives := ⟨firstAnswer, served.asked, (List.of_mem_zip pair).2⟩
        secondGives := ⟨answer, replied, answered⟩ }

/-- A run fails in its last round. -/
theorem resolve_clashes (linked : graph.Linked) (valid : graph.Valid) (counts : Counts graph)
    (known : ∀ root ∈ roots, (graph.namespace? root).isSome = true)
    (forbidThemselves : ∀ space, (graph.namespace? space).isSome = true →
      graph.forbids space space = true)
    (failed : (graph.resolve false roots).result = .error cause) :
    ∃ first second holder entity name,
      [first, second].Sublist (graph.resolve false roots).calls ∧
      cause = .nameTaken (graph.label entity) (graph.label holder) name ∧
      Clash graph holder entity name first second := by
  obtain ⟨forest, flattened, -, -, present⟩ := Graph.flatten_of_known linked known
  obtain ⟨fixed, began, holdsFixed⟩ :=
    assignFixed_holdsFixed linked (Graph.nodup_flatten flattened)
  rw [Graph.resolve_eq_rounds (Graph.validate_ok_iff.mpr valid) flattened began] at failed ⊢
  rcases Logged.bind_error failed with ⟨looped, logged⟩ | ⟨last, -, failed, -⟩
  · obtain ⟨middle, space, ready, before, run, picked, refused, calls⟩ :=
      rounds_error linked holdsFixed.orderly looped
    have orderly := holdsFixed.orderly.reach linked run
    obtain ⟨due, -, -⟩ := orderly.due picked
    have forbidsItself := forbidThemselves space (present space due.listed)
    obtain ⟨made, first, second, holder, entity, name, shown, earlier, taken, clash⟩ :=
      round_clashes linked valid counts orderly picked forbidsItself refused
    refine ⟨first, second, holder, entity, name, ?_, taken, clash⟩
    rw [logged, calls, shown]
    have here : [first, second].Sublist (made ++ [second]) :=
      (List.singleton_sublist.mpr earlier).append (List.Sublist.refl [second])
    exact here.trans (List.sublist_append_right before _)
  · cases failed

/-! ### A clash is a failure -/

/-- Two calls of a run that succeeds, for one namespace, have no name in common: its calls account
for its names, and the names are free of collisions. -/
theorem no_name_in_common (linked : graph.Linked) {names : Names}
    (ledger : Ledger graph before calls names) (apart : Collision.Apart graph state)
    (same : state.names = names) (ordered : [first, second].Sublist calls)
    (home : first.home = second.home) (gives : Gives graph first name) :
    ¬ Gives graph second name := by
  rintro ⟨answer, replied, listed⟩
  obtain ⟨firstAnswer, firstReplied, firstListed⟩ := gives
  obtain ⟨answerServed, served⟩ := ledger.served second (ordered.subset (by simp))
  obtain ⟨firstServedAnswer, firstServed⟩ := ledger.served first (ordered.subset (by simp))
  obtain rfl : answer = answerServed := Except.ok.inj (replied.unique served.asked)
  obtain rfl : firstAnswer = firstServedAnswer :=
    Except.ok.inj (firstReplied.unique firstServed.asked)
  obtain ⟨entity, inSecond, held⟩ := served.holder_of_mem listed
  obtain ⟨holder, inFirst, heldToo⟩ := firstServed.holder_of_mem firstListed
  have once : (first.batch.members ++ second.batch.members).Nodup := by
    have both := ledger.once.sublist (ordered.flatMap (·.batch.members))
    simpa using both
  have differ : entity ≠ holder := by
    rintro rfl
    exact (List.nodup_append.mp once).2.2 entity inFirst entity inSecond rfl
  obtain ⟨self, foundEntity, asked, -⟩ := served.asks entity inSecond
  obtain ⟨other, foundHolder, -, -⟩ := firstServed.asks holder inFirst
  have free : self.isFixed = false := Entity.free_of_function? asked
  have selfHome := linked.home_eq (served.ordered.subset inSecond) foundEntity
  have otherHome := linked.home_eq (firstServed.ordered.subset inFirst) foundHolder
  have sibling : other.home = self.home := otherHome.trans (home.trans selfHome.symm)
  rw [← same] at held heldToo
  exact apart differ foundEntity free foundHolder (.inl sibling) held heldToo

/-- **Where all namespaces forbid themselves, an unguarded run fails exactly on a clash.** On an
accepted graph whose naming functions all count, and from known roots, a run fails only with a
conflict, between two entities to which two calls of one round gave the same name. In a run that
succeeds no two calls for a namespace give the same name. -/
theorem self_forbidding_fails_on_clash (steps : List BuildStep) (roots : List NamespaceRef)
    (accepted : (Graph.ofSteps steps).validate = .ok ())
    (known : ∀ root ∈ roots, ((Graph.ofSteps steps).namespace? root).isSome = true)
    (counts : Counts (Graph.ofSteps steps))
    (forbidThemselves : ∀ space, ((Graph.ofSteps steps).namespace? space).isSome = true →
      (Graph.ofSteps steps).forbids space space = true) :
    (∀ cause, ((Graph.ofSteps steps).resolve false roots).result = .error cause →
      ∃ first second holder entity name,
        [first, second].Sublist ((Graph.ofSteps steps).resolve false roots).calls ∧
        cause = .nameTaken ((Graph.ofSteps steps).label entity)
          ((Graph.ofSteps steps).label holder) name ∧
        Clash (Graph.ofSteps steps) holder entity name first second) ∧
    ∀ resolution, ((Graph.ofSteps steps).resolve false roots).result = .ok resolution →
      ∀ first second, [first, second].Sublist ((Graph.ofSteps steps).resolve false roots).calls →
        first.home = second.home → ∀ name, Gives (Graph.ofSteps steps) first name →
          ¬ Gives (Graph.ofSteps steps) second name := by
  have linked := Graph.linked_ofSteps steps
  have valid := Graph.validate_ok_iff.mp accepted
  constructor
  · intro cause failed
    exact resolve_clashes linked valid counts known forbidThemselves failed
  · intro resolution ran first second ordered home name gives
    obtain ⟨forest, fixed, final, course⟩ := Graph.resolve_course linked ran
    have apart := Collision.apart_reach linked course.holdsFixed.orderly
      (Collision.apart_of_holdsFixed course.holdsFixed) course.run
    exact no_name_in_common linked (Graph.resolve_ledger linked course ran) apart course.names.symm
      ordered home gives

/-- A namespace that forbids itself, with two members that ask different naming functions for the
same name. -/
def namesakes : List BuildStep := [
  .function (Counting.names '_'),
  .function (Counting.names '_'),
  .space { name := "types", forbidsSelf := true },
  .simple ⟨0⟩ ⟨0⟩ "Foo",
  .simple ⟨0⟩ ⟨1⟩ "Foo"]

theorem counts_namesakes : Counts (Graph.ofSteps namesakes) := by
  intro handle function found
  have listed : function ∈ #[Counting.names '_', Counting.names '_'] := Array.mem_of_getElem? found
  exact ⟨'_', by simpa using listed⟩

theorem namesakes_forbid_themselves (space : NamespaceRef)
    (present : ((Graph.ofSteps namesakes).namespace? space).isSome = true) :
    (Graph.ofSteps namesakes).forbids space space = true := by
  have below : space.index < 1 := Graph.namespace?_isSome_iff.mp present
  obtain rfl : space = ⟨0⟩ := Handle.ext_index (Nat.lt_one_iff.mp below)
  decide +kernel

/-- That the namespace forbids itself does not save the unguarded run. -/
theorem namesakes_conflict :
    (Graph.ofSteps namesakes).validate = .ok () ∧
      (∀ root ∈ [⟨0⟩], ((Graph.ofSteps namesakes).namespace? root).isSome = true) ∧
      Counts (Graph.ofSteps namesakes) ∧
      (∀ space, ((Graph.ofSteps namesakes).namespace? space).isSome = true →
        (Graph.ofSteps namesakes).forbids space space = true) ∧
      ((Graph.ofSteps namesakes).resolve false [⟨0⟩]).result =
        .error (.nameTaken ⟨"Foo", ⟨1⟩⟩ ⟨"Foo", ⟨0⟩⟩ "Foo") :=
  ⟨by decide +kernel, by decide, counts_namesakes, namesakes_forbid_themselves, rfl⟩

/-- Both calls of the round give the same name. -/
theorem namesakes_clash : ∃ first second holder entity name,
    [first, second].Sublist ((Graph.ofSteps namesakes).resolve false [⟨0⟩]).calls ∧
      Clash (Graph.ofSteps namesakes) holder entity name first second := by
  have failed : ((Graph.ofSteps namesakes).resolve false [⟨0⟩]).result =
      .error (.nameTaken ⟨"Foo", ⟨1⟩⟩ ⟨"Foo", ⟨0⟩⟩ "Foo") := rfl
  obtain ⟨first, second, holder, entity, name, ordered, -, clash⟩ :=
    (self_forbidding_fails_on_clash namesakes [⟨0⟩] (by decide +kernel) (by decide)
      counts_namesakes namesakes_forbid_themselves).1 _ failed
  exact ⟨first, second, holder, entity, name, ordered, clash⟩

end NameAssignment.SelfForbidding
