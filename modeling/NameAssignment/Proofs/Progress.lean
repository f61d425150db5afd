import NameAssignment.NamingFunction.Counting
import NameAssignment.Proofs.Rounds

/-! Progress of a run. The loop as it is meant has no fuel: it takes turns until no namespace can be
picked or a round fails. Every turn names the members it picked and nobody else, so fewer are left
without a name. Hence the loop ends, the fuel of a run is enough for it, and it takes no more turns
than there are entities that it names. -/
namespace NameAssignment.Progress
open NamingState

/-! ### The loop without fuel -/

/-- One turn of the loop that does not fail. -/
structure Turn (graph : Graph) (guarded : Bool) (forest : List NamespaceRef) (space : NamespaceRef)
    (ready : List EntityRef) (before after : NamingState) : Prop where
  picked : graph.next? before.names forest = some (space, ready)
  ran : (round graph guarded before space ready).result = .ok after

/-- Whether some turn leads from one state to the other. -/
def Turns (graph : Graph) (guarded : Bool) (forest : List NamespaceRef)
    (before after : NamingState) : Prop :=
  ∃ space ready, Turn graph guarded forest space ready before after

/-- The states that the loop comes to. -/
abbrev Attains (graph : Graph) (guarded : Bool) (forest : List NamespaceRef) :
    NamingState → NamingState → Prop :=
  Relation.ReflTransGen (Turns graph guarded forest)

/-- How the loop comes to an end, from a state after `done` turns: with the calls it makes, and with
the last state and the number of all turns unless it fails. -/
inductive Loop (graph : Graph) (guarded : Bool) (forest : List NamespaceRef) :
    NamingState → Nat → Logged (NamingState × Nat) → Prop
  | stuck (none : graph.next? state.names forest = none) :
      Loop graph guarded forest state done (pure (state, done))
  | failed (picked : graph.next? state.names forest = some (space, ready))
      (failed : (round graph guarded state space ready).result = .error cause) :
      Loop graph guarded forest state done
        ⟨(round graph guarded state space ready).calls, .error cause⟩
  | turn (turn : Turn graph guarded forest space ready state after)
      (rest : Loop graph guarded forest after (done + 1) outcome) :
      Loop graph guarded forest state done
        ⟨(round graph guarded state space ready).calls ++ outcome.calls, outcome.result⟩

/-! ### One turn -/

/-- What a turn has to achieve. -/
structure Advance (graph : Graph) (forest : List NamespaceRef) (space : NamespaceRef)
    (ready : List EntityRef) (before after : Names) : Prop where
  listed : space ∈ forest
  chosen : ready = graph.readyMembers before space
  fresh : ∀ member ∈ ready, before.contains member = false
  named : ∀ entity, after.contains entity = true ↔
    before.contains entity = true ∨ entity ∈ ready
  keeps : Keeps before after
  fewer : (graph.unnamed after forest).length < (graph.unnamed before forest).length

variable {graph : Graph} {forest : List NamespaceRef} {guarded : Bool} {space : NamespaceRef}
  {ready : List EntityRef} {state before after fixed final : NamingState}

theorem Turn.advance (turn : Turn graph guarded forest space ready before after)
    (orderly : Orderly graph forest before) :
    Advance graph forest space ready before.names after.names := by
  obtain ⟨listed, -, chosen, -⟩ := Graph.of_next?_eq_some turn.picked
  obtain ⟨due, -, fresh⟩ := orderly.due turn.picked
  obtain ⟨run, all⟩ := round_run due turn.ran
  refine ⟨listed, chosen, ?_, ?_, run.keeps, (orderly.round_progress turn.picked turn.ran).2⟩
  · exact fun member inside => (before.names.contains_eq_false_iff member).mpr (fresh member inside)
  · intro entity
    constructor
    · intro held
      by_cases inside : entity ∈ ready
      · exact .inr inside
      · rw [Table.contains, round_confined due turn.ran inside] at held
        exact .inl held
    · rintro (held | inside)
      · exact run.keeps.contains held
      · exact all entity inside

theorem Turn.orderly (turn : Turn graph guarded forest space ready before after)
    (linked : graph.Linked) (orderly : Orderly graph forest before) : Orderly graph forest after :=
  orderly.reach linked (orderly.round_progress turn.picked turn.ran).1

theorem orderly_of_attains (linked : graph.Linked) (orderly : Orderly graph forest before)
    (attains : Attains graph guarded forest before after) : Orderly graph forest after := by
  induction attains with
  | refl => exact orderly
  | tail _ turns ih =>
    obtain ⟨space, ready, turn⟩ := turns
    exact turn.orderly linked ih

/-! ### All turns -/

/-- The loop has one end only. -/
theorem Loop.unique (loop : Loop graph guarded forest state done outcome)
    (other : Loop graph guarded forest state done ending) : outcome = ending := by
  induction loop generalizing ending with
  | stuck none =>
    cases other with
    | stuck => rfl
    | failed picked => simp [none] at picked
    | turn turn => exact absurd turn.picked (by simp [none])
  | failed picked failed =>
    cases other with
    | stuck none => simp [none] at picked
    | failed again failedToo =>
      cases picked.symm.trans again
      cases failed.symm.trans failedToo
      rfl
    | turn turn =>
      cases picked.symm.trans turn.picked
      cases failed.symm.trans turn.ran
  | turn turn rest ih =>
    cases other with
    | stuck none => exact absurd turn.picked (by simp [none])
    | failed picked failed =>
      cases picked.symm.trans turn.picked
      cases failed.symm.trans turn.ran
    | turn again restToo =>
      cases turn.picked.symm.trans again.picked
      cases turn.ran.symm.trans again.ran
      rw [ih restToo]

/-- With fuel for everybody who is without a name, the loop with fuel is the loop without. -/
theorem loop_rounds (linked : graph.Linked) (orderly : Orderly graph forest state)
    (enough : (graph.unnamed state.names forest).length < fuel) :
    Loop graph guarded forest state done (rounds graph guarded forest fuel done state) := by
  induction fuel generalizing state done with
  | zero => omega
  | succ fuel ih =>
    unfold rounds
    cases picked : graph.next? state.names forest with
    | none => exact .stuck picked
    | some choice =>
      obtain ⟨space, ready⟩ := choice
      cases ended : (round graph guarded state space ready).result with
      | error cause =>
        simp only [Logged.bind_of_error ended]
        exact .failed picked ended
      | ok named =>
        simp only [Logged.bind_of_ok ended]
        have turn : Turn graph guarded forest space ready state named := ⟨picked, ended⟩
        have fewer := (turn.advance orderly).fewer
        exact .turn turn (ih (turn.orderly linked orderly) (by omega))

/-- There are no more turns than members who are without a name at first and have one at last. -/
theorem Loop.count_le (linked : graph.Linked) (loop : Loop graph guarded forest state done outcome)
    (orderly : Orderly graph forest state) (ended : outcome.result = .ok (final, count)) :
    Keeps state.names final.names ∧
      count + (graph.unnamed final.names forest).length ≤
        done + (graph.unnamed state.names forest).length := by
  induction loop with
  | stuck =>
    cases ended
    exact ⟨.refl _, Nat.le_refl _⟩
  | failed => cases ended
  | turn turn rest ih =>
    have advance := turn.advance orderly
    have fewer := advance.fewer
    obtain ⟨keeps, bound⟩ := ih (turn.orderly linked orderly) ended
    exact ⟨advance.keeps.trans keeps, by omega⟩

/-! ### Counting the names -/

/-- The entities that received a name: those that have one and whose name is not fixed. -/
def received (graph : Graph) (names : Names) : List EntityRef :=
  (names.entries.map Prod.fst).filter fun handle =>
    (graph.entity? handle).any fun entity => !entity.isFixed

theorem mem_received {names : Names} : handle ∈ received graph names ↔
    names.contains handle = true ∧
      ∃ entity, graph.entity? handle = some entity ∧ entity.isFixed = false := by
  simp only [received, List.mem_filter, Table.mem_keys_iff, Option.any_eq_true, Bool.not_eq_true']

/-- Those without a name when only the fixed ones have one, and with a name later, received it. -/
theorem length_unnamed_le_received (linked : graph.Linked) (once : forest.Nodup)
    (holdsFixed : fixed.HoldsFixed graph (forest.flatMap graph.members))
    (keeps : Keeps fixed.names final.names) :
    (graph.unnamed fixed.names forest).length ≤
      (received graph final.names).length + (graph.unnamed final.names forest).length := by
  rw [List.length_eq_length_filter_add (l := graph.unnamed fixed.names forest)
    final.names.contains, unnamed_eq_filter graph forest keeps]
  refine Nat.add_le_add_right (List.Subperm.length_le (List.subperm_of_subset ?_ ?_)) _
  · exact ((linked.nodup_flatMap_members once).filter _).filter _
  · intro member gained
    obtain ⟨unnamed, held⟩ := List.mem_filter.mp gained
    obtain ⟨placed, unnamed⟩ := List.mem_filter.mp unnamed
    obtain ⟨entity, found⟩ := Option.isSome_iff_exists.mp (linked.known_of_placed placed)
    refine mem_received.mpr ⟨held, entity, found, ?_⟩
    by_contra literal
    obtain ⟨name, source⟩ := Entity.isFixed_iff.mp (eq_true_of_ne_false literal)
    have named := holdsFixed.named.mpr ⟨placed, entity, found, source⟩
    simp [(fixed.names.contains_eq_true_iff member).mpr ⟨name, named⟩] at unnamed

/-- **Every turn makes progress, and the loop ends.** On an accepted graph with known roots, in
either mode and whatever the naming functions answer: a turn that does not fail names the ready
members of the namespace it picked and nobody else, replaces no name, and leaves fewer members of
the forest without one. So the loop has an end, and only one, which is that of the resolution; and
the rounds counted are at most as many as the entities that received a name. -/
theorem loop_progresses_and_ends (steps : List BuildStep) (roots : List NamespaceRef)
    (guarded : Bool) (accepted : (Graph.ofSteps steps).validate = .ok ())
    (known : ∀ root ∈ roots, ((Graph.ofSteps steps).namespace? root).isSome = true) :
    ∃ forest fixed outcome, (Graph.ofSteps steps).flatten roots = .ok forest ∧
      assignFixed (Graph.ofSteps steps) forest = .ok fixed ∧
      (∀ state, Attains (Graph.ofSteps steps) guarded forest fixed state →
        ∀ space ready after, Turn (Graph.ofSteps steps) guarded forest space ready state after →
          Advance (Graph.ofSteps steps) forest space ready state.names after.names) ∧
      (∀ ending, Loop (Graph.ofSteps steps) guarded forest fixed 0 ending ↔ ending = outcome) ∧
      ((Graph.ofSteps steps).resolve guarded roots = outcome >>= fun last =>
        pure ⟨last.1.names, (Graph.ofSteps steps).unnamed last.1.names forest, last.2⟩) ∧
      ∀ resolution, ((Graph.ofSteps steps).resolve guarded roots).result = .ok resolution →
        resolution.rounds ≤ (received (Graph.ofSteps steps) resolution.names).length := by
  have linked := Graph.linked_ofSteps steps
  obtain ⟨forest, flattened, -⟩ := Graph.flatten_of_known linked known
  have once := Graph.nodup_flatten flattened
  obtain ⟨fixed, began, holdsFixed⟩ := assignFixed_holdsFixed linked once
  have loop : Loop (Graph.ofSteps steps) guarded forest fixed 0
      (rounds (Graph.ofSteps steps) guarded forest ((Graph.ofSteps steps).entities.size + 1) 0
        fixed) :=
    loop_rounds linked holdsFixed.orderly
      (Nat.lt_succ_of_le (Graph.length_unnamed_le linked once fixed.names))
  refine ⟨forest, fixed, _, flattened, began, ?_, ?_,
    Graph.resolve_eq_rounds accepted flattened began, ?_⟩
  · intro state attains space ready after turn
    exact turn.advance (orderly_of_attains linked holdsFixed.orderly attains)
  · exact fun ending => ⟨fun other => other.unique loop, fun same => same ▸ loop⟩
  · intro resolution ran
    rw [Graph.resolve_eq_rounds accepted flattened began] at ran
    obtain ⟨⟨final, count⟩, ended, ran, -⟩ := Logged.bind_ok ran
    cases ran
    obtain ⟨keeps, bound⟩ := loop.count_le linked holdsFixed.orderly ended
    have gained := length_unnamed_le_received linked once holdsFixed keeps
    change count ≤ (received (Graph.ofSteps steps) final.names).length
    omega

/-- Two types of one name, a third that is named after the first, and a word to avoid. -/
def twoTurns : List BuildStep := [
  .function (Counting.names '_'),
  .keywords "words" ["type"],
  .space { name := "types", forbidden := [⟨0⟩] },
  .simple ⟨1⟩ ⟨0⟩ "type",
  .simple ⟨1⟩ ⟨0⟩ "type",
  .dependent ⟨1⟩ ⟨0⟩ "list" [⟨1⟩] String.join]

/-- The third waits for its turn, so two rounds name three entities. -/
theorem third_takes_second_turn : ∃ resolution,
    (Graph.ofSteps twoTurns).validate = .ok () ∧
    (∀ root ∈ [⟨0⟩, ⟨1⟩], ((Graph.ofSteps twoTurns).namespace? root).isSome = true) ∧
    ((Graph.ofSteps twoTurns).resolve true [⟨0⟩, ⟨1⟩]).result = .ok resolution ∧
    resolution.rounds = 2 ∧
    received (Graph.ofSteps twoTurns) resolution.names = [⟨1⟩, ⟨2⟩, ⟨3⟩] ∧
    resolution.rounds ≤ (received (Graph.ofSteps twoTurns) resolution.names).length := by
  have accepted : (Graph.ofSteps twoTurns).validate = .ok () := by decide +kernel
  have known : ∀ root ∈ [⟨0⟩, ⟨1⟩], ((Graph.ofSteps twoTurns).namespace? root).isSome = true := by
    decide +kernel
  obtain ⟨resolution, ran, shown⟩ := exists_ok_of_any
    ((Graph.ofSteps twoTurns).resolve true [⟨0⟩, ⟨1⟩]).result
    (fun resolution => resolution.rounds = 2 ∧
      received (Graph.ofSteps twoTurns) resolution.names = [⟨1⟩, ⟨2⟩, ⟨3⟩]) (by decide +kernel)
  obtain ⟨two, three⟩ := of_decide_eq_true shown
  obtain ⟨forest, fixed, outcome, -, -, -, -, -, bound⟩ :=
    loop_progresses_and_ends twoTurns [⟨0⟩, ⟨1⟩] true accepted known
  exact ⟨resolution, accepted, known, ran, two, three, bound resolution ran⟩

end NameAssignment.Progress
