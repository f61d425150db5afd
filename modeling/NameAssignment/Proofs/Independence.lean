import Mathlib.Data.List.Flatten
import NameAssignment.Proofs.Rounds

/-! A forest that needs nothing from outside is named as if it were alone. A larger run makes rounds
for other namespaces in between, and they leave the names of the forest as they are; its rounds for
the forest are those of the smaller run, with the same batches and the same forbidden names. -/
namespace NameAssignment.Independence
open NamingState

variable {graph : Graph} {forest wider : List NamespaceRef} {names wide : Names}
  {state beside : NamingState} {space : NamespaceRef} {ready : List EntityRef} {guarded : Bool}

/-- The namespaces of the forest forbid none but each other, and their members depend on none but
each other. -/
structure SelfContained (graph : Graph) (forest : List NamespaceRef) : Prop where
  forbids : ∀ space ∈ forest, ∀ other ∈ graph.forbidden space, other ∈ forest
  depends : ∀ member ∈ forest.flatMap graph.members, ∀ entity,
    graph.entity? member = some entity → ∀ dependency ∈ entity.dependencies,
      dependency ∈ forest.flatMap graph.members

/-- Each member of the forest has the same name on both sides, or none on both. -/
def Agree (graph : Graph) (forest : List NamespaceRef) (names wide : Names) : Prop :=
  ∀ member ∈ forest.flatMap graph.members, names.get? member = wide.get? member

/-! ### What is decided by the names of the forest -/

namespace Agree

theorem contains (agree : Agree graph forest names wide)
    (placed : member ∈ forest.flatMap graph.members) :
    names.contains member = wide.contains member := by
  rw [Table.contains, Table.contains, agree member placed]

theorem isEligible (agree : Agree graph forest names wide) (contained : SelfContained graph forest)
    (listed : space ∈ forest) : graph.isEligible names space = graph.isEligible wide space := by
  rw [Bool.eq_iff_iff, isEligible_iff, isEligible_iff]
  refine forall₂_congr fun other forbidden => imp_congr_right fun _ => ?_
  rw [Graph.isFullyNamed, Graph.isFullyNamed, List.all_eq_true, List.all_eq_true]
  refine forall₂_congr fun member inside => ?_
  have placed : member ∈ forest.flatMap graph.members :=
    List.mem_flatMap.mpr ⟨other, contained.forbids space listed other forbidden, inside⟩
  rw [agree.contains placed]

theorem isReady (agree : Agree graph forest names wide) (contained : SelfContained graph forest)
    (placed : member ∈ forest.flatMap graph.members)
    (found : graph.entity? member = some entity) : entity.isReady names = entity.isReady wide := by
  rw [Bool.eq_iff_iff, Entity.isReady, Entity.isReady, List.all_eq_true, List.all_eq_true]
  refine forall₂_congr fun dependency needed => ?_
  rw [agree.contains (contained.depends member placed entity found dependency needed)]

theorem readyMembers (agree : Agree graph forest names wide)
    (contained : SelfContained graph forest) (listed : space ∈ forest) :
    graph.readyMembers names space = graph.readyMembers wide space := by
  refine List.filter_congr fun member inside => ?_
  have placed : member ∈ forest.flatMap graph.members :=
    List.mem_flatMap.mpr ⟨space, listed, inside⟩
  rw [agree.contains placed]
  cases found : graph.entity? member with
  | none => rfl
  | some entity => rw [Option.map_some, Option.map_some, agree.isReady contained placed found]

theorem gather (agree : Agree graph forest names wide) {label : EntityLabel}
    {dependencies : List EntityRef}
    (placed : ∀ dependency ∈ dependencies, dependency ∈ forest.flatMap graph.members) :
    Entity.gather label names dependencies = Entity.gather label wide dependencies := by
  induction dependencies with
  | nil => rfl
  | cons dependency rest ih =>
    rw [Entity.gather, Entity.gather, agree dependency (placed dependency List.mem_cons_self),
      ih fun other later => placed other (List.mem_cons_of_mem _ later)]

theorem propose (agree : Agree graph forest names wide) (contained : SelfContained graph forest)
    (placed : member ∈ forest.flatMap graph.members)
    (found : graph.entity? member = some entity) :
    entity.propose member names = entity.propose member wide := by
  have needed := contained.depends member placed entity found
  obtain ⟨home, name, source⟩ := entity
  cases source with
  | fixed literal => rfl
  | simple function proposed => rfl
  | dependent function dependencies combine =>
    exact congrArg (Except.map combine) (agree.gather needed)

theorem batches (agree : Agree graph forest names wide) (contained : SelfContained graph forest)
    (placed : ∀ member ∈ ready, member ∈ forest.flatMap graph.members) :
    graph.batches names ready = graph.batches wide ready := by
  suffices same : graph.candidates names ready = graph.candidates wide ready by
    rw [Graph.batches, Graph.batches, same]
  induction ready with
  | nil => rfl
  | cons member rest ih =>
    have others := ih fun other later => placed other (List.mem_cons_of_mem _ later)
    have here := placed member List.mem_cons_self
    rw [Graph.candidates, Graph.candidates]
    cases found : graph.entity? member with
    | none => exact others
    | some entity =>
      dsimp only
      rw [agree.propose contained here found, others]

theorem forbiddenNames (agree : Agree graph forest names wide)
    (contained : SelfContained graph forest) (listed : space ∈ forest) :
    graph.forbiddenNames names guarded space = graph.forbiddenNames wide guarded space := by
  rw [Graph.forbiddenNames, Graph.forbiddenNames]
  congr 1
  refine List.filterMap_congr fun member held => agree member ?_
  obtain ⟨other, avoided, inside⟩ := List.mem_flatMap.mp held
  refine List.mem_flatMap.mpr ⟨other, ?_, inside⟩
  rcases List.mem_append.mp avoided with forbidden | own
  · exact contained.forbids space listed other forbidden
  · cases guarded with
    | false => cases own
    | true => rwa [List.mem_singleton.mp own]

end Agree

/-! ### Which namespace is picked -/

/-- The first namespace is picked if it qualifies, and otherwise one of the others. -/
theorem next?_cons (graph : Graph) (names : Names) (space : NamespaceRef)
    (rest : List NamespaceRef) :
    graph.next? names (space :: rest) =
      if graph.isEligible names space && !(graph.readyMembers names space).isEmpty then
        some (space, graph.readyMembers names space)
      else graph.next? names rest := by
  rw [Graph.next?, List.findSome?_cons]
  dsimp only
  split <;> split at * <;> simp_all [Graph.next?]

/-- Where a namespace of the forest is picked among more, it is picked from the forest. -/
theorem Agree.next?_of_mem (agree : Agree graph forest names wide)
    (contained : SelfContained graph forest) {part : List NamespaceRef}
    (inside : ∀ other ∈ part, other ∈ forest) (among : part.Sublist wider) (once : wider.Nodup)
    (picked : graph.next? wide wider = some (space, ready)) (listed : space ∈ part) :
    graph.next? names part = some (space, ready) := by
  induction among with
  | slnil => cases listed
  | @cons part wider first among ih =>
    obtain ⟨absent, once⟩ := List.nodup_cons.mp once
    rw [next?_cons] at picked
    split at picked
    · cases picked
      exact absurd (among.subset listed) absent
    · exact ih inside once picked listed
  | @cons_cons part wider first among ih =>
    obtain ⟨absent, once⟩ := List.nodup_cons.mp once
    have here := inside first List.mem_cons_self
    rw [next?_cons] at picked ⊢
    rw [agree.isEligible contained here, agree.readyMembers contained here]
    split at picked
    · rename_i qualifies
      rw [if_pos qualifies]
      exact picked
    · rename_i passed
      rw [if_neg passed]
      have later : space ∈ part := by
        rcases List.mem_cons.mp listed with rfl | later
        · exact absurd (Graph.of_next?_eq_some picked).1 absent
        · exact later
      exact ih (fun other member => inside other (List.mem_cons_of_mem _ member)) once picked later

/-- Where none is picked among more, none is picked from the forest. -/
theorem Agree.next?_eq_none (agree : Agree graph forest names wide)
    (contained : SelfContained graph forest) (among : forest.Sublist wider)
    (stuck : graph.next? wide wider = none) : graph.next? names forest = none := by
  refine List.findSome?_eq_none_iff.mpr fun space listed => ?_
  have refused := List.findSome?_eq_none_iff.mp stuck space (among.subset listed)
  dsimp only at refused ⊢
  rw [agree.isEligible contained listed, agree.readyMembers contained listed]
  exact refused

/-! ### Two runs side by side -/

/-- The state of the smaller run beside that of the larger one. -/
structure Beside (graph : Graph) (forest : List NamespaceRef) (state beside : NamingState) :
    Prop where
  agree : Agree graph forest state.names beside.names
  /-- The smaller run names members of the forest only. -/
  within : ∀ {entity name}, state.names.get? entity = some name →
    entity ∈ forest.flatMap graph.members
  coherent : state.Coherent
  coherentToo : beside.Coherent

theorem Beside.record (alike : Beside graph forest state beside)
    (placed : entity ∈ forest.flatMap graph.members)
    (unnamed : beside.names.get? entity = none) (name : String) :
    Beside graph forest (state.record entity name) (beside.record entity name) where
  agree member listed := by
    rw [names_record, names_record, alike.agree member listed]
  within {other given} held := by
    rw [names_record] at held
    split at held
    · rename_i same
      exact same ▸ placed
    · exact alike.within held
  coherent := coherent_record alike.coherent ((alike.agree entity placed).trans unnamed) name
  coherentToo := coherent_record alike.coherentToo unnamed name

/-- What can be assigned in the larger run can be assigned in the smaller one: whoever holds a name
there holds it here as well. -/
theorem Beside.assignAll (alike : Beside graph forest state beside)
    (placed : ∀ pair ∈ pairs, pair.1 ∈ forest.flatMap graph.members)
    (ran : NamingState.assignAll graph beside pairs = .ok besideNamed) :
    ∃ named, NamingState.assignAll graph state pairs = .ok named ∧
      Beside graph forest named besideNamed := by
  induction pairs generalizing state beside with
  | nil =>
    cases ran
    exact ⟨state, rfl, alike⟩
  | cons pair rest ih =>
    obtain ⟨entity, name⟩ := pair
    have here := placed (entity, name) List.mem_cons_self
    simp only [NamingState.assignAll] at ran
    cases assigned : beside.assign graph entity name with
    | error cause => simp [assigned] at ran
    | ok middle =>
      simp only [assigned] at ran
      obtain ⟨unnamed, unrivalled, rfl⟩ := assign_ok_iff.mp assigned
      have free : state.rivalHolder? graph entity name = none := by
        refine (rivalHolder?_eq_none_iff alike.coherent).mpr fun holder held => ?_
        have heldToo := (alike.agree holder (alike.within held)).symm.trans held
        exact (rivalHolder?_eq_none_iff alike.coherentToo).mp unrivalled holder heldToo
      have same : state.assign graph entity name = .ok (state.record entity name) :=
        assign_ok_iff.mpr ⟨(alike.agree entity here).trans unnamed, free, rfl⟩
      obtain ⟨named, followed, done⟩ := ih (alike.record here unnamed name)
        (fun pair later => placed pair (List.mem_cons_of_mem _ later)) ran
      exact ⟨named, by simp only [NamingState.assignAll, same, followed], done⟩

/-- Two rounds side by side, between two batches of members of the forest. -/
structure Abreast (graph : Graph) (forest : List NamespaceRef) (batches : List Batch)
    (wide small : NamingState × NameSet) : Prop where
  alike : Beside graph forest small.1 wide.1
  forbidden : small.2 = wide.2
  placed : ∀ batch ∈ batches, ∀ member ∈ batch.members, member ∈ forest.flatMap graph.members

/-- A batch is named in the smaller run as in the larger one. -/
theorem Abreast.next {before after twin : NamingState × NameSet}
    (abreast : Abreast graph forest (batch :: rest) before twin)
    (ran : (nameBatch graph guarded space before batch).result = .ok after) :
    ∃ next, (nameBatch graph guarded space twin batch).result = .ok next ∧
      Abreast graph forest rest after next := by
  obtain ⟨answer, done⟩ := nameBatch_ok ran
  obtain ⟨function, found, answered⟩ := done.asked
  have placed := abreast.placed batch List.mem_cons_self
  obtain ⟨named, assigned, alike⟩ :=
    abreast.alike.assignAll (fun pair zipped => placed pair.1 (List.of_mem_zip zipped).1)
      done.assigned
  have audited := done.audited
  rw [← abreast.forbidden] at answered audited
  refine ⟨_, nameBatch_of_answer found answered audited assigned, alike, ?_, ?_⟩
  · rw [done.forbidden, abreast.forbidden]
  · exact fun other later => abreast.placed other (List.mem_cons_of_mem _ later)

/-- A round for a namespace of the forest is the same in both runs. -/
theorem Beside.round (alike : Beside graph forest state beside)
    (contained : SelfContained graph forest) (listed : space ∈ forest)
    (due : Due graph wider space ready beside.names)
    (ran : (NamingState.round graph guarded beside space ready).result = .ok besideNamed) :
    ∃ named, (NamingState.round graph guarded state space ready).result = .ok named ∧
      Beside graph forest named besideNamed := by
  have placed : ∀ member ∈ ready, member ∈ forest.flatMap graph.members :=
    fun member chosen => List.mem_flatMap.mpr ⟨space, listed, due.member member chosen⟩
  obtain ⟨batches, batched, divides⟩ := Graph.batches_of_canPropose due.can
  rw [round_eq_foldlM batched] at ran
  rw [round_eq_foldlM ((alike.agree.batches contained placed).trans batched)]
  obtain ⟨last, folded, ended, -⟩ := Logged.bind_ok ran
  cases ended
  have begun : Abreast graph forest batches
      (beside, graph.forbiddenNames beside.names guarded space)
      (state, graph.forbiddenNames state.names guarded space) := by
    refine ⟨alike, alike.agree.forbiddenNames contained listed, ?_⟩
    intro batch among member inside
    exact placed member (divides.perm.subset (List.mem_flatMap.mpr ⟨batch, among, inside⟩))
  obtain ⟨next, followed, abreast⟩ :=
    Logged.foldlM_follows (Abreast graph forest) Abreast.next begun folded
  exact ⟨next.1, Logged.result_bind_eq_ok_iff.mpr ⟨next, followed, rfl⟩, abreast.alike⟩

/-- A round for a namespace outside leaves the forest alone. -/
theorem Beside.skip (alike : Beside graph forest state beside) (linked : graph.Linked)
    (outside : space ∉ forest) (due : Due graph wider space ready beside.names)
    (coherent : besideNamed.Coherent)
    (ran : (NamingState.round graph guarded beside space ready).result = .ok besideNamed) :
    Beside graph forest state besideNamed where
  agree member placed := by
    obtain ⟨home, listed, inside⟩ := List.mem_flatMap.mp placed
    have elsewhere : member ∉ ready := by
      intro chosen
      rw [linked.home_unique (due.member member chosen) inside] at outside
      exact outside listed
    rw [round_confined due ran elsewhere]
    exact alike.agree member placed
  within := alike.within
  coherent := alike.coherent
  coherentToo := coherent

/-- Where the larger run ends, the smaller one ends with the same names, after no more rounds. -/
theorem Beside.rounds (linked : graph.Linked) (contained : SelfContained graph forest)
    (among : forest.Sublist wider) (once : wider.Nodup)
    (alike : Beside graph forest state beside) (orderly : Orderly graph wider beside)
    (enough : (graph.unnamed beside.names wider).length < fuel) (more : fuel ≤ fuel')
    (fewer : done' ≤ done)
    (ran : (NamingState.rounds graph guarded wider fuel done beside).result =
      .ok (besideFinal, count)) :
    ∃ final count', (NamingState.rounds graph guarded forest fuel' done' state).result =
        .ok (final, count') ∧ Beside graph forest final besideFinal ∧ count' ≤ count := by
  induction fuel generalizing state beside fuel' done done' with
  | zero => omega
  | succ fuel ih =>
    obtain ⟨fuel', rfl⟩ : ∃ fewer, fuel' = fewer + 1 := ⟨fuel' - 1, by omega⟩
    unfold NamingState.rounds at ran
    cases picked : graph.next? beside.names wider with
    | none =>
      simp only [picked] at ran
      cases ran
      have stuck := alike.agree.next?_eq_none contained among picked
      unfold NamingState.rounds
      simp only [stuck]
      exact ⟨state, done', rfl, alike, fewer⟩
    | some choice =>
      obtain ⟨space, ready⟩ := choice
      simp only [picked] at ran
      obtain ⟨middle, here, later, -⟩ := Logged.bind_ok ran
      obtain ⟨due, -, -⟩ := orderly.due picked
      obtain ⟨run, less⟩ := orderly.round_progress picked here
      have orderlyNext := orderly.reach linked run
      by_cases listed : space ∈ forest
      · have pickedToo :=
          alike.agree.next?_of_mem contained (fun _ member => member) among once picked listed
        obtain ⟨named, hereToo, alikeNext⟩ := alike.round contained listed due here
        obtain ⟨final, count', ended, alikeLast, least⟩ :=
          ih alikeNext orderlyNext (by omega) (Nat.le_of_succ_le_succ more)
            (Nat.succ_le_succ fewer) later
        refine ⟨final, count', ?_, alikeLast, least⟩
        unfold NamingState.rounds
        simp only [pickedToo]
        exact Logged.result_bind_eq_ok_iff.mpr ⟨named, hereToo, ended⟩
      · have alikeNext := alike.skip linked listed due orderlyNext.coherent here
        exact ih alikeNext orderlyNext (by omega) (Nat.le_of_succ_le more) (by omega) later

/-- Both runs begin with the fixed names of the forest. -/
theorem Beside.begin (among : forest.Sublist wider)
    (holds : state.HoldsFixed graph (forest.flatMap graph.members))
    (holdsToo : beside.HoldsFixed graph (wider.flatMap graph.members)) :
    Beside graph forest state beside where
  agree member placed := by
    have placedToo : member ∈ wider.flatMap graph.members :=
      (among.flatMap graph.members).subset placed
    apply Option.ext
    intro name
    rw [holds.named, holdsToo.named]
    exact and_congr_left fun _ => iff_of_true placed placedToo
  within held := (holds.named.mp held).1
  coherent := holds.coherent
  coherentToo := holdsToo.coherent

/-- **Independent namespaces do not interfere.** If a forest needs nothing from outside and stands
within a larger one, in the same order, then a run of the larger that succeeds gives the members of
the smaller exactly the names that a run of the smaller alone gives them. That run succeeds too, and
needs no more rounds. -/
theorem self_contained_forest_is_undisturbed (steps : List BuildStep) (guarded : Bool)
    (roots widerRoots forest wider : List NamespaceRef) (resolution : Resolution)
    (flattened : (Graph.ofSteps steps).flatten roots = .ok forest)
    (flattenedToo : (Graph.ofSteps steps).flatten widerRoots = .ok wider)
    (among : forest.Sublist wider) (contained : SelfContained (Graph.ofSteps steps) forest)
    (ran : ((Graph.ofSteps steps).resolve guarded widerRoots).result = .ok resolution) :
    ∃ alone, ((Graph.ofSteps steps).resolve guarded roots).result = .ok alone ∧
      (∀ space ∈ forest, ∀ member ∈ (Graph.ofSteps steps).members space,
        alone.names.get? member = resolution.names.get? member) ∧
      alone.rounds ≤ resolution.rounds := by
  have linked := Graph.linked_ofSteps steps
  obtain ⟨same, fixedToo, final, course⟩ := Graph.resolve_course linked ran
  obtain rfl : wider = same := Except.ok.inj (flattenedToo.symm.trans course.flattened)
  have once := Graph.nodup_flatten flattenedToo
  obtain ⟨fixed, began, holdsFixed⟩ :=
    assignFixed_holdsFixed linked (Graph.nodup_flatten flattened)
  rw [Graph.resolve_eq_rounds course.valid flattenedToo course.began] at ran
  rw [Graph.resolve_eq_rounds course.valid flattened began]
  obtain ⟨⟨last, count⟩, looped, ended, -⟩ := Logged.bind_ok ran
  cases ended
  have enough := Graph.length_unnamed_le linked once fixedToo.names
  obtain ⟨small, fewer, loopedToo, alike, least⟩ := Beside.rounds linked contained among once
    (.begin among holdsFixed course.holdsFixed) course.holdsFixed.orderly
    (Nat.lt_succ_of_le enough) (Nat.le_refl _) (Nat.le_refl 0) looped
  refine ⟨_, Logged.result_bind_eq_ok_iff.mpr ⟨(small, fewer), loopedToo, rfl⟩, ?_, least⟩
  intro space listed member inside
  exact alike.agree member (List.mem_flatMap.mpr ⟨space, listed, inside⟩)

/-- Types, notes that must avoid the names of the types and so wait for them, and a namespace that
has to do with neither. -/
def annotated : List BuildStep := [
  .function (Counting.names '_'),
  .space { name := "notes", forbidden := [⟨1⟩] },
  .space { name := "types" },
  .space { name := "loose" },
  .simple ⟨0⟩ ⟨0⟩ "Foo",
  .simple ⟨1⟩ ⟨0⟩ "Foo",
  .dependent ⟨1⟩ ⟨0⟩ "echo" [⟨1⟩] String.join,
  .simple ⟨2⟩ ⟨0⟩ "Foo"]

theorem selfContained_types : SelfContained (Graph.ofSteps annotated) [⟨1⟩] where
  forbids := by decide +kernel
  depends member placed entity found dependency needed := by
    have members : [⟨1⟩].flatMap (Graph.ofSteps annotated).members = [⟨1⟩, ⟨2⟩] := by decide
    rw [members] at placed ⊢
    rcases (by simpa using placed : member = ⟨1⟩ ∨ member = ⟨2⟩) with rfl | rfl
    · cases found
      cases needed
    · cases found
      rw [List.mem_singleton.mp needed]
      exact List.mem_cons_self

/-- The types alone take the same names in half as many rounds. -/
theorem types_need_no_notes : ∃ resolution alone,
    ((Graph.ofSteps annotated).resolve true [⟨2⟩, ⟨0⟩, ⟨1⟩]).result = .ok resolution ∧
      ((Graph.ofSteps annotated).resolve true [⟨1⟩]).result = .ok alone ∧
      resolution.names.get? ⟨2⟩ = some "Foo_" ∧ alone.names.get? ⟨2⟩ = some "Foo_" ∧
      alone.rounds ≤ resolution.rounds ∧ resolution.rounds = 4 := by
  obtain ⟨resolution, ran, shown⟩ := exists_ok_of_any
    ((Graph.ofSteps annotated).resolve true [⟨2⟩, ⟨0⟩, ⟨1⟩]).result
    (fun resolution => resolution.names.get? ⟨2⟩ == some "Foo_" && resolution.rounds == 4)
    (by decide +kernel)
  simp only [Bool.and_eq_true, beq_iff_eq] at shown
  obtain ⟨alone, ranToo, same, fewer⟩ := self_contained_forest_is_undisturbed annotated true [⟨1⟩]
    [⟨2⟩, ⟨0⟩, ⟨1⟩] [⟨1⟩] [⟨2⟩, ⟨0⟩, ⟨1⟩] resolution (by decide +kernel) (by decide +kernel)
    (by decide) selfContained_types ran
  have name : alone.names.get? ⟨2⟩ = resolution.names.get? ⟨2⟩ :=
    same ⟨1⟩ (by decide) ⟨2⟩ (by decide)
  exact ⟨resolution, alone, ran, ranToo, shown.1, name.trans shown.1, fewer, shown.2⟩

end NameAssignment.Independence
