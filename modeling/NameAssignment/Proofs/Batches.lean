import Mathlib.Data.List.Induction
import Mathlib.Data.List.Nodup
import Mathlib.Data.List.Perm.Basic
import NameAssignment.Resolution.Batch
import NameAssignment.Proofs.Outcome

/-! Batches divide the ready members: each of them stands in exactly one batch, and a batch holds
only members that share its naming function and its proposal. -/
namespace NameAssignment

/-! ### First occurrences -/

section Occurrences
variable {α : Type} [BEq α] [LawfulBEq α]

/-- One more item counts if it is new. -/
theorem eraseDups_concat (items : List α) (item : α) : (items ++ [item]).eraseDups =
    if item ∈ items then items.eraseDups else items.eraseDups ++ [item] := by
  rw [List.eraseDups_append]
  split <;> simp [List.removeAll, List.eraseDups_cons, *]

theorem nodup_eraseDups (items : List α) : items.eraseDups.Nodup := by
  induction items using List.reverseRecOn with
  | nil => exact .nil
  | append_singleton items item ih =>
    rw [eraseDups_concat]
    split
    · exact ih
    · rename_i new
      exact List.concat_eq_append ▸ ih.concat (mt List.mem_eraseDups.mp new)

end Occurrences

/-! ### Groups -/

section Groups
variable {α κ : Type} [DecidableEq κ] {key : α → κ}

/-- Sorting a list into classes by key loses nothing and repeats nothing. -/
theorem flatMap_filter_perm {keys : List κ} {items : List α} (once : keys.Nodup)
    (covered : ∀ item ∈ items, key item ∈ keys) :
    (keys.flatMap fun k => items.filter (key · = k)).Perm items := by
  induction keys generalizing items with
  | nil =>
    cases items with
    | nil => exact .nil
    | cons item rest => cases covered item List.mem_cons_self
  | cons k keys ih =>
    obtain ⟨absent, once⟩ := List.nodup_cons.mp once
    let others := items.filter fun item => !decide (key item = k)
    have othersCovered : ∀ item ∈ others, key item ∈ keys := by
      intro item member
      obtain ⟨inside, differ⟩ := List.mem_filter.mp member
      simp only [Bool.not_eq_true', decide_eq_false_iff_not] at differ
      exact (List.mem_cons.mp (covered item inside)).resolve_left differ
    have undisturbed : keys.flatMap (fun other => items.filter (key · = other)) =
        keys.flatMap fun other => others.filter (key · = other) := by
      refine List.flatMap_congr fun other member => ?_
      rw [List.filter_filter]
      refine List.filter_congr fun item _ => ?_
      have differ : other ≠ k := fun same => absent (same ▸ member)
      by_cases here : key item = other <;> simp [here, differ]
    rw [List.flatMap_cons, undisturbed]
    exact ((ih once othersCovered).append_left _).trans (List.filter_append_perm _ items)

theorem groupByKey_perm (items : List α) :
    ((groupByKey key items).flatMap (·.2)).Perm items := by
  rw [groupByKey, List.flatMap_map]
  apply flatMap_filter_perm (nodup_eraseDups _)
  intro item member
  exact List.mem_eraseDups.mpr (List.mem_map_of_mem member)

/-- A group holds all items with its key, of which there is one at least. -/
theorem of_mem_groupByKey {group : κ × List α} {items : List α}
    (member : group ∈ groupByKey key items) :
    group.2 = items.filter (key · = group.1) ∧ group.2 ≠ [] := by
  obtain ⟨k, there, rfl⟩ := List.mem_map.mp member
  refine ⟨rfl, fun none => ?_⟩
  obtain ⟨item, inside, rfl⟩ := List.mem_map.mp (List.mem_eraseDups.mp there)
  have found : item ∈ items.filter (key · = key item) := by simp [inside]
  dsimp only at none
  rw [none] at found
  cases found

end Groups

/-! ### Batches of candidates -/

namespace Batch

theorem members_perm (candidates : List Candidate) :
    ((ofCandidates candidates).flatMap (·.members)).Perm (candidates.map (·.entity)) := by
  have inner (group : FunctionRef × List Candidate) :
      ((groupByKey (·.proposed) group.2).flatMap fun alike => alike.2.map (·.entity)).Perm
        (group.2.map (·.entity)) := by
    rw [← List.map_flatMap]
    exact (groupByKey_perm group.2).map _
  have outer : ((groupByKey (·.function) candidates).flatMap fun group =>
      group.2.map (·.entity)).Perm (candidates.map (·.entity)) := by
    rw [← List.map_flatMap]
    exact (groupByKey_perm candidates).map _
  simp only [ofCandidates, List.flatMap_assoc, List.flatMap_map]
  exact (List.Perm.flatMap_left _ fun group _ => inner group).trans outer

theorem of_mem_ofCandidates {candidates : List Candidate}
    (member : batch ∈ ofCandidates candidates) :
    batch.members ≠ [] ∧ ∀ entity ∈ batch.members, ∃ candidate ∈ candidates,
      candidate.entity = entity ∧ candidate.function = batch.function ∧
        candidate.proposed = batch.proposed := by
  obtain ⟨⟨function, sharing⟩, first, second⟩ := List.mem_flatMap.mp member
  obtain ⟨⟨proposed, alike⟩, third, rfl⟩ := List.mem_map.mp second
  obtain ⟨sharingIs, -⟩ := of_mem_groupByKey first
  obtain ⟨alikeIs, nonempty⟩ := of_mem_groupByKey third
  refine ⟨by simpa using nonempty, fun entity inside => ?_⟩
  obtain ⟨candidate, there, rfl⟩ := List.mem_map.mp inside
  dsimp only at sharingIs alikeIs
  rw [alikeIs, sharingIs] at there
  simp only [List.mem_filter, decide_eq_true_eq] at there
  exact ⟨candidate, there.1.1, rfl, there.1.2, there.2⟩

/-- The members of a batch stand in the order of the candidates. -/
theorem sublist_of_mem_ofCandidates {candidates : List Candidate}
    (member : batch ∈ ofCandidates candidates) :
    batch.members.Sublist (candidates.map (·.entity)) := by
  obtain ⟨⟨function, sharing⟩, first, second⟩ := List.mem_flatMap.mp member
  obtain ⟨⟨proposed, alike⟩, third, rfl⟩ := List.mem_map.mp second
  have outer := (of_mem_groupByKey first).1
  have inner := (of_mem_groupByKey third).1
  dsimp only at outer inner
  rw [inner, outer]
  exact (List.filter_sublist.trans List.filter_sublist).map _

end Batch

/-! ### Ready members -/

theorem NameSource.function?_eq_none_iff {source : NameSource} :
    source.function? = none ↔ source.isFixed = true := by
  cases source <;> simp [function?, isFixed]

namespace Entity
variable {names : Names}

/-- The name of a fixed entity is its source. -/
theorem isFixed_iff {entity : Entity} :
    entity.isFixed = true ↔ ∃ name, entity.source = .fixed name := by
  unfold isFixed
  cases entity.source <;> simp [NameSource.isFixed]

/-- Only an entity without a fixed name has a naming function. -/
theorem free_of_function? {entity : Entity} (asked : entity.function? = some function) :
    entity.isFixed = false := by
  cases fixed : entity.isFixed with
  | false => rfl
  | true =>
    have none := NameSource.function?_eq_none_iff.mpr fixed
    rw [function?, none] at asked
    cases asked

theorem gather_of_named {dependencies : List EntityRef} (label : EntityLabel)
    (named : ∀ dependency ∈ dependencies, names.contains dependency = true) :
    ∃ found, gather label names dependencies = .ok found := by
  induction dependencies with
  | nil => exact ⟨[], rfl⟩
  | cons dependency rest ih =>
    obtain ⟨found, ran⟩ := ih fun other later => named other (List.mem_cons_of_mem _ later)
    have here := named dependency List.mem_cons_self
    obtain ⟨name, held⟩ := Option.isSome_iff_exists.1 here
    exact ⟨name :: found, by simp [gather, held, ran, Except.map]⟩

/-- What is gathered are the names of all dependencies, in order. -/
theorem gather_ok {dependencies : List EntityRef} {label : EntityLabel}
    (ran : gather label names dependencies = .ok found) :
    dependencies.map names.get? = found.map some := by
  induction dependencies generalizing found with
  | nil =>
    cases ran
    rfl
  | cons dependency rest ih =>
    unfold gather at ran
    split at ran
    · cases ran
    · rename_i name held
      cases later : gather label names rest with
      | error cause =>
        rw [later] at ran
        cases ran
      | ok others =>
        rw [later] at ran
        cases ran
        rw [List.map_cons, List.map_cons, held, ih later]

/-- An entity whose dependencies are named can propose a name. -/
theorem propose_of_isReady {entity : Entity} (handle : EntityRef)
    (ready : entity.isReady names = true) :
    ∃ proposed, entity.propose handle names = .ok proposed := by
  obtain ⟨home, name, source⟩ := entity
  cases source with
  | fixed literal => exact ⟨literal, rfl⟩
  | simple function proposed => exact ⟨proposed, rfl⟩
  | dependent function dependencies combine =>
    have named : ∀ dependency ∈ dependencies, names.contains dependency = true :=
      List.all_eq_true.mp ready
    obtain ⟨found, ran⟩ := gather_of_named ⟨name, handle⟩ named
    exact ⟨combine found, by simp [propose, ran, Except.map]⟩

end Entity

namespace Graph
variable {graph : Graph} {names : Names}

/-- A member that can be named now: it is known, its name is not fixed and its dependencies have
theirs. -/
def CanPropose (graph : Graph) (names : Names) (member : EntityRef) : Prop :=
  ∃ entity, graph.entity? member = some entity ∧ entity.isFixed = false ∧
    entity.isReady names = true

/-- The naming function and the proposal of a batch are those of each of its members. -/
def Asks (graph : Graph) (names : Names) (member : EntityRef) (function : FunctionRef)
    (proposed : String) : Prop :=
  ∃ entity, graph.entity? member = some entity ∧ entity.function? = some function ∧
    entity.propose member names = .ok proposed

theorem candidates_of_canPropose {ready : List EntityRef}
    (can : ∀ member ∈ ready, graph.CanPropose names member) :
    ∃ found, graph.candidates names ready = .ok found ∧ found.map (·.entity) = ready ∧
      ∀ candidate ∈ found,
        graph.Asks names candidate.entity candidate.function candidate.proposed := by
  induction ready with
  | nil => exact ⟨[], rfl, rfl, fun candidate member => by cases member⟩
  | cons member rest ih =>
    obtain ⟨found, ran, same, asks⟩ :=
      ih fun other later => can other (List.mem_cons_of_mem _ later)
    obtain ⟨entity, there, free, ready⟩ := can member List.mem_cons_self
    obtain ⟨proposed, proposes⟩ := entity.propose_of_isReady member ready
    cases asked : entity.function? with
    | none =>
      have fixed := NameSource.function?_eq_none_iff.mp asked
      simp [Entity.isFixed, fixed] at free
    | some function =>
      refine ⟨⟨member, function, proposed⟩ :: found, ?_, ?_, ?_⟩
      · simp [candidates, there, asked, proposes, ran, Except.map]
      · simp [same]
      · intro candidate inside
        rcases List.mem_cons.mp inside with rfl | later
        · exact ⟨entity, there, asked, proposes⟩
        · exact asks candidate later

/-- How batches divide a list of ready members. -/
structure Divides (graph : Graph) (names : Names) (ready : List EntityRef) (batches : List Batch) :
    Prop where
  perm : (batches.flatMap (·.members)).Perm ready
  nonempty : ∀ batch ∈ batches, batch.members ≠ []
  asks : ∀ batch ∈ batches, ∀ member ∈ batch.members,
    graph.Asks names member batch.function batch.proposed

/-- Members that can propose can be batched, and the batches divide them. -/
theorem batches_of_canPropose {ready : List EntityRef}
    (can : ∀ member ∈ ready, graph.CanPropose names member) :
    ∃ batches, graph.batches names ready = .ok batches ∧ graph.Divides names ready batches := by
  obtain ⟨found, ran, same, asks⟩ := candidates_of_canPropose can
  refine ⟨Batch.ofCandidates found, by simp [batches, ran, Except.map], ?_, ?_, ?_⟩
  · rw [← same]
    exact Batch.members_perm found
  · exact fun batch member => (Batch.of_mem_ofCandidates member).1
  · intro batch there member inside
    obtain ⟨candidate, listed, rfl, function, proposed⟩ :=
      (Batch.of_mem_ofCandidates there).2 member inside
    rw [← function, ← proposed]
    exact asks candidate listed

/-- A batch lists its members as the ready members are listed. -/
theorem batches_ordered {ready : List EntityRef} {batches : List Batch}
    (can : ∀ member ∈ ready, graph.CanPropose names member)
    (batched : graph.batches names ready = .ok batches) :
    ∀ batch ∈ batches, batch.members.Sublist ready := by
  obtain ⟨found, ran, same, -⟩ := candidates_of_canPropose can
  have made : batches = Batch.ofCandidates found := by
    simpa [Graph.batches, ran, Except.map, eq_comm] using batched
  intro batch member
  rw [made] at member
  have ordered := Batch.sublist_of_mem_ofCandidates member
  rwa [same] at ordered

end Graph

end NameAssignment
