import NameAssignment.Proofs.Modes
import NameAssignment.Proofs.Waiting

/-! Names that have been resolved are stable. Where all naming functions count and a guarded run has
named everything, let each entity ask for the name that it was given, and for nothing else. Then a
second guarded run gives everyone that name again. It is scheduled differently, for nobody waits for
a dependency any more. But the names of the first run are free of collisions, so no two members of a
namespace ask for one name, and nobody asks for a name that is forbidden. -/
namespace NameAssignment.Stability
open NamingState

variable {graph : Graph} {forest : List NamespaceRef} {names : Names}

/-! ### Asking for the name that was given -/

/-- An entity that asks for the name it was given, if it was given one: it proposes that name, in
the same namespace and of the same naming function. -/
def restatedEntity (names : Names) (handle : EntityRef) (entity : Entity) : Entity :=
  match entity.function?, names.get? handle with
  | some function, some given => ⟨entity.home, given, .simple function given⟩
  | _, _ => entity

/-- The graph whose entities ask for the names they were given. -/
def restated (names : Names) (graph : Graph) : Graph :=
  { graph with entities := graph.entities.mapIdx fun index => restatedEntity names ⟨index⟩ }

/-- A restated entity depends on nothing; any other is left as it was. -/
theorem restatedEntity_cases (names : Names) (handle : EntityRef) (entity : Entity) :
    (∃ function given, entity.function? = some function ∧ names.get? handle = some given ∧
      restatedEntity names handle entity = ⟨entity.home, given, .simple function given⟩) ∨
    restatedEntity names handle entity = entity := by
  unfold restatedEntity
  split
  · rename_i function given asked held
    exact .inl ⟨function, given, asked, held, rfl⟩
  · exact .inr rfl

section
variable (names : Names) (handle : EntityRef) (entity : Entity)

@[simp] theorem home_restatedEntity : (restatedEntity names handle entity).home = entity.home := by
  rcases restatedEntity_cases names handle entity with ⟨_, _, _, _, same⟩ | same <;> rw [same]

@[simp] theorem function?_restatedEntity :
    (restatedEntity names handle entity).function? = entity.function? := by
  rcases restatedEntity_cases names handle entity with ⟨function, _, asked, _, same⟩ | same
  · rw [same, asked]
    rfl
  · rw [same]

@[simp] theorem isFixed_restatedEntity :
    (restatedEntity names handle entity).isFixed = entity.isFixed := by
  rw [Bool.eq_iff_iff, Entity.isFixed, Entity.isFixed, ← NameSource.function?_eq_none_iff,
    ← NameSource.function?_eq_none_iff]
  exact Eq.congr_left (function?_restatedEntity names handle entity)

theorem source_restatedEntity_eq_fixed_iff {literal : String} :
    (restatedEntity names handle entity).source = .fixed literal ↔
      entity.source = .fixed literal := by
  rcases restatedEntity_cases names handle entity with ⟨function, _, asked, _, same⟩ | same
  · have free : entity.source ≠ .fixed literal := by
      intro fixed
      simp [Entity.function?, fixed, NameSource.function?] at asked
    simp [same, free]
  · rw [same]

theorem mem_dependencies_of_restatedEntity {dependency : EntityRef}
    (listed : dependency ∈ (restatedEntity names handle entity).dependencies) :
    dependency ∈ entity.dependencies := by
  rcases restatedEntity_cases names handle entity with ⟨_, _, _, _, same⟩ | same <;>
    rw [same] at listed
  · cases listed
  · exact listed

end

theorem entity?_restated (names : Names) (graph : Graph) (handle : EntityRef) :
    (restated names graph).entity? handle =
      (graph.entity? handle).map (restatedEntity names handle) := by
  simp [Graph.entity?, restated]

theorem entity?_restated_eq_some_iff : (restated names graph).entity? handle = some entity ↔
    ∃ original, graph.entity? handle = some original ∧
      restatedEntity names handle original = entity := by
  rw [entity?_restated, Option.map_eq_some_iff]

theorem linked_restated (names : Names) (linked : graph.Linked) :
    (restated names graph).Linked where
  housed listed := by
    obtain ⟨entity, found, home⟩ := linked.housed listed
    exact ⟨_, entity?_restated_eq_some_iff.mpr ⟨entity, found, rfl⟩,
      (home_restatedEntity ..).trans home⟩
  memberOnce := linked.memberOnce
  born := linked.born
  childOnce := linked.childOnce
  lawful := linked.lawful

theorem valid_restated (names : Names) (valid : graph.Valid) : (restated names graph).Valid where
  parent := valid.parent
  forbidden := valid.forbidden
  home {handle entity} found := by
    obtain ⟨original, there, rfl⟩ := entity?_restated_eq_some_iff.mp found
    rw [home_restatedEntity]
    exact valid.home there
  function {handle entity function} found asked := by
    obtain ⟨original, there, rfl⟩ := entity?_restated_eq_some_iff.mp found
    rw [function?_restatedEntity] at asked
    exact valid.function there asked
  dependency {handle entity} found dependency listed := by
    obtain ⟨original, there, rfl⟩ := entity?_restated_eq_some_iff.mp found
    have known := valid.dependency there dependency
      (mem_dependencies_of_restatedEntity names handle original listed)
    rw [entity?_restated, Option.isSome_map]
    exact known

/-- Nobody waits for more than before. -/
theorem nameable_restated (names : Names) (nameable : Waiting.Nameable graph forest handle) :
    Waiting.Nameable (restated names graph) forest handle := by
  induction nameable with
  | @fixed space handle entity listed member found fixed =>
    exact .fixed listed member (entity?_restated_eq_some_iff.mpr ⟨entity, found, rfl⟩)
      ((isFixed_restatedEntity ..).trans fixed)
  | @made space handle entity listed member found free _ _ fed clear =>
    refine .made listed member (entity?_restated_eq_some_iff.mpr ⟨entity, found, rfl⟩)
      ((isFixed_restatedEntity ..).trans free) ?_ clear
    intro dependency needed
    exact fed dependency (mem_dependencies_of_restatedEntity names handle entity needed)

/-! ### Nobody is in the way -/

theorem original_of_asks (asks : (restated names graph).Asks held handle function proposed) :
    ∃ original, graph.entity? handle = some original ∧ original.function? = some function ∧
      (restatedEntity names handle original).propose handle held = .ok proposed := by
  obtain ⟨entity, found, asked, proposes⟩ := asks
  obtain ⟨original, there, rfl⟩ := entity?_restated_eq_some_iff.mp found
  rw [function?_restatedEntity] at asked
  exact ⟨original, there, asked, proposes⟩

/-- A restated entity asks for the name it was given. -/
theorem eq_of_asks (given : names.get? handle = some name)
    (asks : (restated names graph).Asks held handle function proposed) : proposed = name := by
  obtain ⟨original, -, asked, proposes⟩ := original_of_asks asks
  have simple : restatedEntity names handle original =
      ⟨original.home, name, .simple function name⟩ := by
    simp [restatedEntity, asked, given]
  rw [simple] at proposes
  exact (Except.ok.inj proposes).symm

section
variable {first : NamingState} {space : NamespaceRef} {batch : Batch}

/-- Whoever asks for a name shares the one it was given with nobody that it must avoid. -/
theorem unshared (linked : graph.Linked) (apart : Collision.Apart graph first)
    (asks : (restated first.names graph).Asks held handle function proposed)
    (member : handle ∈ graph.members space) (rival : other ∈ graph.members elsewhere)
    (avoided : elsewhere ∈ graph.forbidden space ∨ elsewhere = space) (differ : handle ≠ other)
    (given : first.names.get? handle = some name) : first.names.get? other ≠ some name := by
  obtain ⟨original, found, asked, -⟩ := original_of_asks asks
  have free := Entity.free_of_function? asked
  obtain ⟨second, foundOther, home⟩ := linked.housed rival
  have avoid : Collision.MustAvoid graph original second := by
    rw [Collision.MustAvoid, home, linked.home_eq member found, linked.forbids_iff]
    exact avoided.symm
  exact apart differ found free foundOther avoid given

/-- So the name is not forbidden, as long as everybody has the name they were given: it would be
held by someone to be avoided. -/
theorem allowed_of_backed (linked : graph.Linked) (apart : Collision.Apart graph first)
    (asks : (restated first.names graph).Asks held handle function proposed)
    (member : handle ∈ graph.members space) (keeps : Keeps current first.names)
    (backed : Backed (restated first.names graph) true space current forbidden)
    (fresh : current.get? handle = none) (given : first.names.get? handle = some name) :
    forbidden.contains name = false := by
  cases listed : forbidden.contains name with
  | false => rfl
  | true =>
    obtain ⟨other, avoided, holder, rival, taken⟩ :=
      contains_forbiddenNames_iff.mp (backed _ listed)
    have differ : handle ≠ holder := by
      rintro rfl
      rw [fresh] at taken
      cases taken
    exact absurd (keeps taken)
      (unshared linked apart asks member rival (avoided.imp id And.right) differ given)

/-- And the batches of the second run have one member each, which asks for the name it was given. -/
theorem eq_singleton_of_fits (linked : graph.Linked) (apart : Collision.Apart graph first)
    (complete : ∀ member ∈ graph.members space, first.names.contains member = true)
    (fits : Fits (restated first.names graph) held space batch) :
    ∃ member, batch.members = [member] ∧ first.names.get? member = some batch.proposed := by
  have given : ∀ member ∈ batch.members, first.names.get? member = some batch.proposed := by
    intro member listed
    obtain ⟨name, given⟩ := (first.names.contains_eq_true_iff member).mp
      (complete member (fits.ordered.subset listed))
    rw [given, eq_of_asks given (fits.asks member listed)]
  have once : batch.members.Nodup := (linked.memberOnce space).sublist fits.ordered
  cases members : batch.members with
  | nil => exact absurd members fits.nonempty
  | cons member rest =>
    rw [members] at given once
    refine ⟨member, ?_, given member List.mem_cons_self⟩
    cases rest with
    | nil => rfl
    | cons other rest =>
      have here : member ∈ batch.members := by simp [members]
      have there : other ∈ batch.members := by simp [members]
      have differ : member ≠ other := by
        rintro rfl
        simp at once
      exact absurd (given other (by simp))
        (unshared linked apart (fits.asks member here) (fits.ordered.subset here)
          (fits.ordered.subset there) (.inr rfl) differ (given member (by simp)))

end

/-! ### The second run -/

/-- Between two batches of the second run: whoever has a name has the one that it was given. -/
structure Repeating (graph : Graph) (forest : List NamespaceRef) (names : Names)
    (space : NamespaceRef) (ready : List EntityRef) (start : NamingState) (batches : List Batch)
    (current : NamingState × NameSet) (made : List NamingCall) : Prop where
  posting : Posting (restated names graph) forest true space ready start batches current made
  backed : Backed (restated names graph) true space current.1.names current.2
  keeps : Keeps current.1.names names

variable {first start : NamingState} {space : NamespaceRef} {ready : List EntityRef}

/-- A batch gives its only member the name that it asks for, which is not forbidden. -/
theorem Repeating.next (linked : graph.Linked) (counts : Modes.Counts graph)
    (apart : Collision.Apart graph first)
    (complete : ∀ member ∈ forest.flatMap graph.members, first.names.contains member = true)
    {before after : NamingState × NameSet}
    (repeating : Repeating graph forest first.names space ready start (batch :: rest) before made)
    (ran : (nameBatch (restated first.names graph) true space before batch).result = .ok after) :
    Repeating graph forest first.names space ready start rest after
      (made ++ (nameBatch (restated first.names graph) true space before batch).calls) := by
  obtain ⟨answer, done⟩ := nameBatch_ok ran
  have guarding := repeating.posting.guarding
  have due := guarding.underway.due
  have inside := guarding.underway.inside batch List.mem_cons_self
  have fits := repeating.posting.fits batch List.mem_cons_self
  obtain ⟨member, single, given⟩ := eq_singleton_of_fits linked apart
    (fun member listed => complete member (List.mem_flatMap.mpr ⟨space, due.listed, listed⟩)) fits
  have listed : member ∈ batch.members := by simp [single]
  have fresh : before.1.names.get? member = none := by
    apply guarding.fresh
    simp [single]
  have allowed : before.2.contains batch.proposed = false :=
    allowed_of_backed linked apart (fits.asks member listed) (fits.ordered.subset listed)
      repeating.keeps repeating.backed fresh given
  have answered : answer = [batch.proposed] := by
    obtain ⟨function, found, replied⟩ := done.asked
    obtain ⟨filler, rfl⟩ := counts _ _ found
    rw [single, List.length_singleton, Counting.names_of_allowed allowed] at replied
    exact (Except.ok.inj replied).symm
  obtain ⟨-, adds, -⟩ := done.run due inside
  refine ⟨repeating.posting.next (linked_restated _ linked) ran,
    done.backed due inside repeating.backed, ?_⟩
  intro entity name held
  rcases adds.mp held with old | new
  · exact repeating.keeps old
  · rw [single, answered] at new
    obtain ⟨rfl, rfl⟩ : entity = member ∧ name = batch.proposed := by simpa using new
    exact given

/-- A round of the second run gives everyone the name it was given. -/
theorem round_repeats (linked : graph.Linked) (counts : Modes.Counts graph)
    (apart : Collision.Apart graph first)
    (complete : ∀ member ∈ forest.flatMap graph.members, first.names.contains member = true)
    (orderly : Orderly (restated first.names graph) forest state)
    (picked : (restated first.names graph).next? state.names forest = some (space, ready))
    (ran : (round (restated first.names graph) true state space ready).result = .ok named)
    (keeps : Keeps state.names first.names) : Keeps named.names first.names := by
  obtain ⟨due, -, -⟩ := orderly.due picked
  obtain ⟨batches, batched, divides⟩ := Graph.batches_of_canPropose due.can
  rw [round_eq_foldlM batched] at ran
  obtain ⟨last, folded, ran, -⟩ := Logged.bind_ok ran
  cases ran
  have begun : Repeating graph forest first.names space ready state batches
      (state, (restated first.names graph).forbiddenNames state.names true space) [] :=
    ⟨.begin (linked_restated _ linked) orderly picked batched divides, fun _ held => held, keeps⟩
  exact (Logged.foldlM_ok (Repeating graph forest first.names space ready state) []
    (fun repeating ran => repeating.next linked counts apart complete ran) begun folded).keeps

/-- In a complete resolution the named entities are the members of the forest. -/
theorem named_iff_of_isComplete (linked : graph.Linked)
    (course : graph.Course roots forest fixed final resolution)
    (complete : resolution.isComplete = true) :
    resolution.names.contains handle = true ↔ handle ∈ forest.flatMap graph.members := by
  rw [course.names]
  refine ⟨(course.orderly linked).placed, fun placed => ?_⟩
  rw [Resolution.isComplete, List.isEmpty_iff, course.unresolved] at complete
  simpa using List.filter_eq_nil_iff.mp complete handle placed

/-- The second run begins with the names that the first one began with. -/
theorem keeps_fixed (orderly : Orderly graph forest first)
    (holdsFixed : HoldsFixed (restated names graph) (forest.flatMap graph.members) state) :
    Keeps state.names first.names := by
  intro member name held
  obtain ⟨placed, entity, found, source⟩ := holdsFixed.named.mp held
  obtain ⟨original, there, rfl⟩ := entity?_restated_eq_some_iff.mp found
  rw [source_restatedEntity_eq_fixed_iff] at source
  exact orderly.literal placed there source

/-- Whoever the second run names has the name of the first. -/
theorem resolve_keeps (linked : graph.Linked) (counts : Modes.Counts graph)
    (course : graph.Course roots forest fixed final resolution)
    (complete : ∀ member ∈ forest.flatMap graph.members, final.names.contains member = true)
    (second : (restated final.names graph).Course roots forest start last again)
    (ran : ((restated final.names graph).resolve true roots).result = .ok again) :
    Keeps again.names final.names := by
  have apart := Collision.apart_reach linked course.holdsFixed.orderly
    (Collision.apart_of_holdsFixed course.holdsFixed) course.run
  rw [Graph.resolve_eq_rounds second.valid second.flattened second.began] at ran
  obtain ⟨ended, looped, ran, -⟩ := Logged.bind_ok ran
  cases ran
  exact rounds_preserves (fun state => Keeps state.names final.names) (linked_restated _ linked)
    (fun orderly picked ran keeps =>
      round_repeats linked counts apart complete orderly picked ran keeps)
    second.holdsFixed.orderly (keeps_fixed (course.orderly linked) second.holdsFixed) looped

/-- The second run succeeds and gives everyone the name of the first. -/
theorem resolve_repeats (linked : graph.Linked) (counts : Modes.Counts graph)
    (course : graph.Course roots forest fixed final resolution)
    (complete : resolution.isComplete = true) :
    ∃ again, ((restated resolution.names graph).resolve true roots).result = .ok again ∧
      again.isComplete = true ∧
      ∀ handle, again.names.get? handle = resolution.names.get? handle := by
  have all (handle : EntityRef) : resolution.names.contains handle = true ↔
      handle ∈ forest.flatMap graph.members := named_iff_of_isComplete linked course complete
  rw [course.names] at all ⊢
  have linkedAgain := linked_restated final.names linked
  have valid := valid_restated final.names (Graph.validate_ok_iff.mp course.valid)
  have flattened : (restated final.names graph).flatten roots = .ok forest := by
    rw [← course.flattened]
    apply Graph.flatten_congr
    exact fun _ => rfl
  obtain ⟨again, ran⟩ := Attribution.resolve_ok_of_reliable linkedAgain valid
    (Graph.roots_of_flatten flattened) counts.reliable
  obtain ⟨elsewhere, start, last, second⟩ := Graph.resolve_course linkedAgain ran
  obtain rfl : elsewhere = forest := Except.ok.inj (second.flattened.symm.trans flattened)
  have completeAgain : again.isComplete = true := by
    rw [Resolution.isComplete, List.isEmpty_iff, List.eq_nil_iff_forall_not_mem]
    intro handle left
    obtain ⟨placed, stuck⟩ := (Waiting.mem_unresolved_iff linkedAgain second).mp left
    have nameable := (Waiting.named_iff linked course).mp ((all handle).mpr placed)
    exact stuck (nameable_restated final.names nameable)
  have keeps := resolve_keeps linked counts course (fun member => (all member).mpr) second ran
  refine ⟨again, ran, completeAgain, fun handle => keeps.get?_eq fun given => ?_⟩
  exact (named_iff_of_isComplete linkedAgain second completeAgain).mpr ((all handle).mp given)

/-! ### How the second graph is built -/

/-- The step that adds an entity which asks for the name it was given. -/
def restatedStep (names : Names) (handle : EntityRef) : BuildStep → BuildStep
  | .simple home function proposed =>
    .simple home function ((names.get? handle).getD proposed)
  | .dependent home function name dependencies combine =>
    match names.get? handle with
    | some given => .simple home function given
    | none => .dependent home function name dependencies combine
  | step => step

/-- How many entities a step adds. -/
def entitiesAdded : BuildStep → Nat
  | .function _ => 0
  | .space _ => 0
  | .keywords _ words => words.length
  | .fixed _ _ => 1
  | .simple _ _ _ => 1
  | .dependent _ _ _ _ _ => 1

/-- The history in which each entity asks for the name it was given, where `added` entities are
there already. -/
def restatedSteps (names : Names) : Nat → List BuildStep → List BuildStep
  | _, [] => []
  | added, step :: rest =>
    restatedStep names ⟨added⟩ step :: restatedSteps names (added + entitiesAdded step) rest

theorem restated_addEntity (names : Names) (graph : Graph) (entity : Entity) :
    (restated names graph).addEntity (restatedEntity names graph.nextEntity entity) =
      restated names (graph.addEntity entity) := by
  simp [restated, Graph.addEntity, Graph.nextEntity, Array.mapIdx_push]

/-- A restated step adds to the restated graph what the step adds, restated. -/
theorem restated_build (names : Names) (graph : Graph) (step : BuildStep) :
    (restated names graph).build (restatedStep names graph.nextEntity step) =
      restated names (graph.build step) := by
  cases step with
  | function function => rfl
  | space request => rfl
  | keywords name words =>
    have fixed (graph : Graph) (home : NamespaceRef) (word : String) :
        (restated names graph).addFixed home word = restated names (graph.addFixed home word) :=
      restated_addEntity names graph ⟨home, word, .fixed word⟩
    have folded (graph : Graph) (home : NamespaceRef) :
        words.foldl (·.addFixed home ·) (restated names graph) =
          restated names (words.foldl (·.addFixed home ·) graph) :=
      List.foldl_hom _ fun graph word => fixed graph home word
    exact folded (graph.addNamespace { name }) graph.nextNamespace
  | fixed home name => exact restated_addEntity names graph ⟨home, name, .fixed name⟩
  | simple home function proposed =>
    have added := restated_addEntity names graph ⟨home, proposed, .simple function proposed⟩
    cases given : names.get? graph.nextEntity <;>
      simpa [restatedEntity, restatedStep, given, Entity.function?, NameSource.function?,
        Graph.build, Graph.addSimple] using added
  | dependent home function name dependencies combine =>
    have added :=
      restated_addEntity names graph ⟨home, name, .dependent function dependencies combine⟩
    cases given : names.get? graph.nextEntity <;>
      simpa [restatedEntity, restatedStep, given, Entity.function?, NameSource.function?,
        Graph.build, Graph.addSimple, Graph.addDependent] using added

theorem size_entities_build (graph : Graph) (step : BuildStep) :
    (graph.build step).entities.size = graph.entities.size + entitiesAdded step := by
  have one (graph : Graph) (entity : Entity) :
      (graph.addEntity entity).entities.size = graph.entities.size + 1 := Array.size_push ..
  cases step with
  | function function => rfl
  | space request => rfl
  | keywords name words =>
    have grown (home : NamespaceRef) (graph : Graph) :
        (words.foldl (·.addFixed home ·) graph).entities.size =
          graph.entities.size + words.length := by
      induction words generalizing graph with
      | nil => rfl
      | cons word rest ih =>
        have added : (graph.addFixed home word).entities.size = graph.entities.size + 1 := one ..
        rw [List.foldl_cons, ih, added, List.length_cons]
        omega
    exact grown ..
  | fixed home name => exact one ..
  | simple home function proposed => exact one ..
  | dependent home function name dependencies combine => exact one ..

/-- The second graph has a history as well. -/
theorem ofSteps_restatedSteps (names : Names) (steps : List BuildStep) :
    Graph.ofSteps (restatedSteps names 0 steps) = restated names (Graph.ofSteps steps) := by
  have grown (start : Graph) : (restatedSteps names start.entities.size steps).foldl Graph.build
        (restated names start) = restated names (steps.foldl Graph.build start) := by
    induction steps generalizing start with
    | nil => rfl
    | cons step rest ih =>
      rw [restatedSteps, List.foldl_cons, ← size_entities_build, List.foldl_cons, ← ih]
      exact congrArg (List.foldl Graph.build · _) (restated_build names start step)
  exact grown .empty

/-- **Resolved names are stable.** Where all naming functions count and a guarded resolution is
complete, it has named exactly the members of its forest. Let each of them whose name is not fixed
ask for the name it was given, and for nothing else: the graph can be built like that, its guarded
resolution from the same roots is complete, and everyone has the name that they had. -/
theorem resolved_names_are_stable (steps : List BuildStep) (roots : List NamespaceRef)
    (resolution : Resolution) (counts : Modes.Counts (Graph.ofSteps steps))
    (ran : ((Graph.ofSteps steps).resolve true roots).result = .ok resolution)
    (complete : resolution.isComplete = true) :
    (∃ forest, (Graph.ofSteps steps).flatten roots = .ok forest ∧
      ∀ handle, resolution.names.contains handle = true ↔
        handle ∈ forest.flatMap (Graph.ofSteps steps).members) ∧
    Graph.ofSteps (restatedSteps resolution.names 0 steps) =
      restated resolution.names (Graph.ofSteps steps) ∧
    ∃ again, ((restated resolution.names (Graph.ofSteps steps)).resolve true roots).result =
        .ok again ∧
      again.isComplete = true ∧
      ∀ handle, again.names.get? handle = resolution.names.get? handle := by
  have linked := Graph.linked_ofSteps steps
  obtain ⟨forest, fixed, final, course⟩ := Graph.resolve_course linked ran
  exact ⟨⟨forest, course.flattened, fun handle => named_iff_of_isComplete linked course complete⟩,
    ofSteps_restatedSteps resolution.names steps, resolve_repeats linked counts course complete⟩

/-- A reserved word, two members that both ask for it, and one that is made from them. -/
def kindred : List BuildStep := [
  .function (Counting.names '_'),
  .keywords "keywords" ["type"],
  .space { name := "fields", forbidden := [⟨0⟩] },
  .simple ⟨1⟩ ⟨0⟩ "type",
  .simple ⟨1⟩ ⟨0⟩ "type",
  .dependent ⟨1⟩ ⟨0⟩ "both" [⟨1⟩, ⟨2⟩] String.join]

/-- The third keeps the name that was made from the other two, though it waits for nobody now. -/
theorem kindred_keep_their_names : ∃ resolution again,
    ((Graph.ofSteps kindred).resolve true [⟨0⟩, ⟨1⟩]).result = .ok resolution ∧
      resolution.isComplete = true ∧ resolution.names.get? ⟨3⟩ = some "type0type1" ∧
      ((restated resolution.names (Graph.ofSteps kindred)).resolve true [⟨0⟩, ⟨1⟩]).result =
        .ok again ∧
      again.names.get? ⟨3⟩ = some "type0type1" := by
  obtain ⟨resolution, ran, shown⟩ := exists_ok_of_any
    ((Graph.ofSteps kindred).resolve true [⟨0⟩, ⟨1⟩]).result
    (fun resolution => resolution.isComplete && resolution.names.get? ⟨3⟩ == some "type0type1")
    (by decide +kernel)
  simp only [Bool.and_eq_true, beq_iff_eq] at shown
  obtain ⟨complete, third⟩ := shown
  have counts : Modes.Counts (Graph.ofSteps kindred) := by
    intro handle function found
    have listed : function ∈ #[Counting.names '_'] := Array.mem_of_getElem? found
    exact ⟨'_', by simpa using listed⟩
  obtain ⟨-, -, again, ranAgain, -, same⟩ :=
    resolved_names_are_stable kindred [⟨0⟩, ⟨1⟩] resolution counts ran complete
  exact ⟨resolution, again, ran, complete, third, ranAgain, (same ⟨3⟩).trans third⟩

end NameAssignment.Stability
