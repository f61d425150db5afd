import Mathlib.Logic.Function.Basic
import NameAssignment.Proofs.Batches
import NameAssignment.Proofs.Forest
import NameAssignment.Resolution

/-! Which handles the naming functions have makes no difference. A run looks a naming function up by
its handle, tells handles apart when it groups what is ready, and puts them into calls and errors;
it never compares them otherwise. So a graph in which the naming functions are found under other
handles resolves as before, call by call, but for the handles in the calls and errors themselves. -/
namespace NameAssignment

section Renamed
variable (rename : FunctionRef → FunctionRef)

/-! ### Renamed records -/

def NameSource.renamed : NameSource → NameSource
  | .fixed name => .fixed name
  | .simple function proposed => .simple (rename function) proposed
  | .dependent function dependencies combine => .dependent (rename function) dependencies combine

def Entity.renamed (entity : Entity) : Entity :=
  { entity with source := entity.source.renamed rename }

def Candidate.renamed (candidate : Candidate) : Candidate :=
  { candidate with function := rename candidate.function }

def Batch.renamed (batch : Batch) : Batch :=
  { batch with function := rename batch.function }

def NamingCall.renamed (call : NamingCall) : NamingCall :=
  { call with batch := call.batch.renamed rename }

def ContractViolation.renamed : ContractViolation → ContractViolation
  | .wrongCount function proposed returned expected =>
    .wrongCount (rename function) proposed returned expected
  | .repeatedName function proposed returned => .repeatedName (rename function) proposed returned
  | .forbiddenName function proposed name => .forbiddenName (rename function) proposed name

def DanglingReference.renamed : DanglingReference → DanglingReference
  | .function entity missing => .function entity (rename missing)
  | .batchFunction missing => .batchFunction (rename missing)
  | reference => reference

def Error.renamed : Error → Error
  | .contract violation => .contract (violation.renamed rename)
  | .dangling reference => .dangling (reference.renamed rename)
  | cause => cause

/-- A naming function can fail with any error, also with one that is about a naming function. -/
def NamingFunction.renamed (function : NamingFunction) : NamingFunction :=
  fun proposed forbidden count =>
    (function proposed forbidden count).mapError (Error.renamed rename)

/-- The same computation, with other handles in its calls and in its error. -/
def Logged.renamed (computation : Logged α) : Logged α :=
  ⟨computation.calls.map (NamingCall.renamed rename),
    computation.result.mapError (Error.renamed rename)⟩

/-! ### Nothing else is renamed -/

namespace Entity
variable (entity : Entity)

@[simp] theorem home_renamed : (entity.renamed rename).home = entity.home := rfl

@[simp] theorem name_renamed : (entity.renamed rename).name = entity.name := rfl

@[simp] theorem dependencies_renamed :
    (entity.renamed rename).dependencies = entity.dependencies := by
  obtain ⟨home, name, _ | _ | _⟩ := entity <;> rfl

@[simp] theorem function?_renamed :
    (entity.renamed rename).function? = entity.function?.map rename := by
  obtain ⟨home, name, _ | _ | _⟩ := entity <;> rfl

@[simp] theorem isReady_renamed (names : Names) :
    (entity.renamed rename).isReady names = entity.isReady names := by
  rw [isReady, isReady, dependencies_renamed]

@[simp] theorem propose_renamed (handle : EntityRef) (names : Names) :
    (entity.renamed rename).propose handle names = entity.propose handle names := by
  obtain ⟨home, name, _ | _ | _⟩ := entity <;> rfl

/-- No naming function is at fault for a proposal that cannot be made. -/
theorem mapError_gather (label : EntityLabel) (names : Names) (dependencies : List EntityRef) :
    (gather label names dependencies).mapError (Error.renamed rename) =
      gather label names dependencies := by
  induction dependencies with
  | nil => rfl
  | cons dependency rest ih =>
    unfold gather
    cases names.get? dependency with
    | none => rfl
    | some name =>
      dsimp only
      rw [mapError_map, ih]

theorem mapError_propose (handle : EntityRef) (names : Names) :
    (entity.propose handle names).mapError (Error.renamed rename) =
      entity.propose handle names := by
  obtain ⟨home, name, _ | _ | ⟨function, dependencies, combine⟩⟩ := entity
  · rfl
  · rfl
  · simp only [propose, mapError_map, mapError_gather]

end Entity

/-! ### Computations -/

namespace Logged
variable {α β σ τ : Type}

theorem renamed_of (result : Except Error α) :
    (of result).renamed rename = of (result.mapError (Error.renamed rename)) := rfl

theorem renamed_pure (value : α) : (pure value : Logged α).renamed rename = pure value := rfl

theorem renamed_call (entry : NamingCall) (result : Except Error α) :
    (call entry result).renamed rename =
      call (entry.renamed rename) (result.mapError (Error.renamed rename)) := rfl

theorem renamed_bind (first : Logged α) (next : α → Logged β) :
    (first >>= next).renamed rename =
      first.renamed rename >>= fun value => (next value).renamed rename := by
  obtain ⟨calls, _ | value⟩ := first
  · rfl
  · change (Logged.bind ⟨calls, .ok value⟩ next).renamed rename =
      Logged.bind (renamed rename ⟨calls, .ok value⟩) fun value => (next value).renamed rename
    simp only [Logged.bind, renamed, Except.mapError, List.map_append]

/-- A fold over renamed items, if one step over a renamed item is the step, renamed. -/
theorem renamed_foldlM {f : σ → α → Logged σ} {g : σ → β → Logged σ} {make : α → β}
    (each : ∀ state item, g state (make item) = (f state item).renamed rename) (start : σ)
    (items : List α) :
    (items.map make).foldlM g start = (items.foldlM f start).renamed rename := by
  induction items generalizing start with
  | nil => rfl
  | cons item rest ih =>
    rw [List.map_cons, List.foldlM_cons, List.foldlM_cons, renamed_bind, each]
    simp only [ih]

end Logged

/-! ### Answers and assignments -/

theorem audit_renamed (function : FunctionRef) (proposed : String) (forbidden : NameSet)
    (count : Nat) (names : List String) :
    NamingFunction.audit (rename function) proposed forbidden count names =
      (NamingFunction.audit function proposed forbidden count names).mapError
        (Error.renamed rename) := by
  unfold NamingFunction.audit
  split
  · rfl
  · split
    · rfl
    · split <;> rfl

end Renamed

/-! ### Grouping by renamed keys -/

section Grouping
variable {α β κ χ : Type} [DecidableEq κ] [DecidableEq χ] {change : κ → χ}

theorem eraseDups_map (injective : Function.Injective change) (keys : List κ) :
    (keys.map change).eraseDups = keys.eraseDups.map change := by
  induction keys using List.reverseRecOn with
  | nil => rfl
  | append_singleton keys key ih =>
    rw [List.map_append, List.map_singleton, eraseDups_concat, eraseDups_concat, ih]
    simp only [List.mem_map_of_injective injective]
    split
    · rfl
    · rw [List.map_append, List.map_singleton]

/-- Items that are remade, and whose keys are renamed apart, form the groups that they did. -/
theorem groupByKey_map {key : α → κ} {keyed : β → χ} {make : α → β}
    (injective : Function.Injective change) (keys : ∀ item, keyed (make item) = change (key item))
    (items : List α) : groupByKey keyed (items.map make) =
      (groupByKey key items).map fun group => (change group.1, group.2.map make) := by
  have renamed : (items.map make).map keyed = (items.map key).map change := by
    simp only [List.map_map, Function.comp_def, keys]
  rw [groupByKey, groupByKey, renamed, eraseDups_map injective, List.map_map, List.map_map]
  apply List.map_congr_left
  intro key _
  simp only [Function.comp_apply, List.filter_map, Function.comp_def, keys, injective.eq_iff]

/-- Candidates that ask renamed naming functions form the batches that they did, renamed. -/
theorem ofCandidates_renamed {rename : FunctionRef → FunctionRef}
    (injective : Function.Injective rename) (candidates : List Candidate) :
    Batch.ofCandidates (candidates.map (Candidate.renamed rename)) =
      (Batch.ofCandidates candidates).map (Batch.renamed rename) := by
  have functions : groupByKey (·.function) (candidates.map (Candidate.renamed rename)) =
      (groupByKey (·.function) candidates).map fun group =>
        (rename group.1, group.2.map (Candidate.renamed rename)) :=
    groupByKey_map injective (fun _ => by rfl) candidates
  have proposals (sharing : List Candidate) :
      groupByKey (·.proposed) (sharing.map (Candidate.renamed rename)) =
        (groupByKey (·.proposed) sharing).map fun group =>
          (group.1, group.2.map (Candidate.renamed rename)) :=
    groupByKey_map Function.injective_id (fun _ => by rfl) sharing
  rw [Batch.ofCandidates, Batch.ofCandidates, functions, List.flatMap_map, List.map_flatMap]
  simp only [proposals, List.map_map, Function.comp_def]
  rfl

end Grouping

/-! ### What a run reads -/

variable {rename : FunctionRef → FunctionRef} {guarded : Bool} {graph other : Graph}

/-- All that a run reads of a graph is the same in another, but that the naming functions are found
under other handles. -/
structure Renames (rename : FunctionRef → FunctionRef) (guarded : Bool) (graph other : Graph) :
    Prop where
  injective : Function.Injective rename
  validate : other.validate = graph.validate.mapError (Error.renamed rename)
  flatten : ∀ roots,
    other.flatten roots = (graph.flatten roots).mapError (Error.renamed rename)
  members : other.members = graph.members
  entities : other.entities = graph.entities.map (Entity.renamed rename)
  functions : ∀ handle, other.function? (rename handle) =
    (graph.function? handle).map (NamingFunction.renamed rename)
  isEligible : other.isEligible = graph.isEligible
  forbiddenNames : ∀ names space,
    other.forbiddenNames names guarded space = graph.forbiddenNames names guarded space
  areRivals : NamingState.areRivals other = NamingState.areRivals graph

namespace Renames
variable (renames : Renames rename guarded graph other)
include renames

theorem entity? (handle : EntityRef) :
    other.entity? handle = (graph.entity? handle).map (Entity.renamed rename) := by
  rw [Graph.entity?, Graph.entity?, renames.entities, Array.getElem?_map]

theorem label : other.label = graph.label := by
  funext handle
  rw [Graph.label, Graph.label, renames.entity?, Option.map_map]
  rfl

theorem assignFixed (forest : List NamespaceRef) :
    NamingState.assignFixed other forest =
      (NamingState.assignFixed graph forest).mapError (Error.renamed rename) := by
  have size : other.entities.size = graph.entities.size := by
    rw [renames.entities, Array.size_map]
  rw [NamingState.assignFixed, NamingState.assignFixed, NamingState.start, NamingState.start, size,
    renames.members]
  apply mapError_foldlM
  intro state entity
  rw [renames.entity?]
  rcases graph.entity? entity with _ | ⟨home, label, name | _ | _⟩
  · rfl
  · simp only [Option.map_some, Entity.renamed, NameSource.renamed, NamingState.assignUnchecked,
      renames.label]
    split <;> rfl
  · rfl
  · rfl

theorem readyMembers : other.readyMembers = graph.readyMembers := by
  funext names space
  simp only [Graph.readyMembers, renames.members, renames.entity?, Option.map_map,
    Function.comp_def, Entity.isReady_renamed]

theorem next? : other.next? = graph.next? := by
  funext names forest
  rw [Graph.next?, Graph.next?, renames.readyMembers, renames.isEligible]

theorem unnamed : other.unnamed = graph.unnamed := by
  funext names forest
  rw [Graph.unnamed, Graph.unnamed, renames.members]

/-- The candidates make the same proposals, to renamed naming functions. -/
theorem candidates (names : Names) (ready : List EntityRef) :
    other.candidates names ready =
      ((graph.candidates names ready).map (List.map (Candidate.renamed rename))).mapError
        (Error.renamed rename) := by
  induction ready with
  | nil => rfl
  | cons member rest ih =>
    unfold Graph.candidates
    rw [renames.entity?]
    cases graph.entity? member with
    | none => exact ih
    | some entity =>
      simp only [Option.map_some, Entity.function?_renamed, Entity.propose_renamed]
      cases entity.function? with
      | none => exact ih
      | some function =>
        have same := entity.mapError_propose rename member names
        dsimp only [Option.map_some]
        cases proposal : entity.propose member names with
        | error cause =>
          rw [proposal] at same
          exact congrArg Except.error (Except.error.inj same).symm
        | ok proposed =>
          dsimp only
          rw [ih]
          cases graph.candidates names rest <;> rfl

theorem batches (names : Names) (ready : List EntityRef) :
    other.batches names ready =
      ((graph.batches names ready).map (List.map (Batch.renamed rename))).mapError
        (Error.renamed rename) := by
  rw [Graph.batches, Graph.batches, renames.candidates]
  cases graph.candidates names ready with
  | error cause => rfl
  | ok candidates => exact congrArg Except.ok (ofCandidates_renamed renames.injective candidates)

theorem assignAll (state : NamingState) (pairs : List (EntityRef × String)) :
    state.assignAll other pairs =
      (state.assignAll graph pairs).mapError (Error.renamed rename) := by
  induction pairs generalizing state with
  | nil => rfl
  | cons pair rest ih =>
    obtain ⟨entity, name⟩ := pair
    simp only [NamingState.assignAll, NamingState.assign, NamingState.rivalHolder?,
      renames.areRivals, renames.label]
    cases state.names.get? entity with
    | some held => rfl
    | none =>
      dsimp only
      cases (state.holdersOf name).find? (NamingState.areRivals graph entity) with
      | some holder => rfl
      | none => exact ih _

/-- A batch for a renamed naming function is named as the batch was. -/
theorem nameBatch (space : NamespaceRef) (current : NamingState × NameSet) (batch : Batch) :
    NamingState.nameBatch other guarded space current (batch.renamed rename) =
      (NamingState.nameBatch graph guarded space current batch).renamed rename := by
  obtain ⟨state, forbidden⟩ := current
  simp only [NamingState.nameBatch, Batch.renamed, renames.functions]
  cases graph.function? batch.function with
  | none => rfl
  | some function =>
    simp only [Option.map_some, Logged.renamed_call, mapError_bind, NamingFunction.renamed,
      audit_renamed, renames.assignAll]
    rfl

theorem round (state : NamingState) (space : NamespaceRef) (ready : List EntityRef) :
    state.round other guarded space ready =
      (state.round graph guarded space ready).renamed rename := by
  rw [NamingState.round, NamingState.round, renames.batches, renames.forbiddenNames]
  cases graph.batches state.names ready with
  | error cause => rfl
  | ok batches =>
    have named := Logged.renamed_foldlM rename (renames.nameBatch space)
      (state, graph.forbiddenNames state.names guarded space) batches
    change (batches.map (Batch.renamed rename)).foldlM _ _ >>= _ = (Logged.renamed rename
      (batches.foldlM (NamingState.nameBatch graph guarded space) _ >>= _))
    rw [named, Logged.renamed_bind]
    rfl

/-- By induction on the number of rounds that are left. -/
theorem rounds (forest : List NamespaceRef) (fuel done : Nat) (state : NamingState) :
    state.rounds other guarded forest fuel done =
      (state.rounds graph guarded forest fuel done).renamed rename := by
  induction fuel generalizing done state with
  | zero => rfl
  | succ fuel ih =>
    simp only [NamingState.rounds, renames.next?]
    cases graph.next? state.names forest with
    | none => rfl
    | some choice => simp only [renames.round, ih, Logged.renamed_bind]

/-- A run that reads the same asks the same and ends alike, but for the handles of the naming
functions. -/
theorem resolve (roots : List NamespaceRef) :
    other.resolve guarded roots = (graph.resolve guarded roots).renamed rename := by
  have size : other.entities.size = graph.entities.size := by
    rw [renames.entities, Array.size_map]
  simp only [Graph.resolve, Logged.renamed_bind, Logged.renamed_of, Logged.renamed_pure,
    renames.validate, renames.flatten, renames.assignFixed, renames.rounds, renames.unnamed, size]

end Renames

/-! ### The same handles -/

theorem Entity.renamed_id (entity : Entity) : entity.renamed id = entity := by
  obtain ⟨home, name, _ | _ | _⟩ := entity <;> rfl

theorem Error.renamed_id : Error.renamed id = id := by
  funext cause
  rcases cause with _ | _ | violation | _ | _ | reference | _ | _ | _
  case contract => cases violation <;> rfl
  case dangling => cases reference <;> rfl
  all_goals rfl

theorem mapError_renamed_id (result : Except Error α) :
    result.mapError (Error.renamed id) = result := by
  rw [Error.renamed_id]
  cases result <;> rfl

theorem NamingFunction.renamed_id (function : NamingFunction) : function.renamed id = function := by
  funext proposed forbidden count
  exact mapError_renamed_id _

theorem Logged.renamed_id (computation : Logged α) : computation.renamed id = computation := by
  have calls : computation.calls.map (NamingCall.renamed id) = computation.calls := List.map_id _
  rw [renamed, calls, mapError_renamed_id]

/-! ### Other handles for the naming functions -/

/-- The graph with other handles for its naming functions, which are given anew. -/
def Graph.reseated (rename : FunctionRef → FunctionRef) (functions : Array NamingFunction)
    (graph : Graph) : Graph :=
  ⟨graph.namespaces, graph.entities.map (Entity.renamed rename), functions⟩

variable {functions : Array NamingFunction}

namespace Graph

theorem namespace?_reseated :
    (graph.reseated rename functions).namespace? = graph.namespace? := rfl

theorem entity?_reseated (handle : EntityRef) : (graph.reseated rename functions).entity? handle =
    (graph.entity? handle).map (Entity.renamed rename) := by
  rw [entity?, entity?, reseated, Array.getElem?_map]

theorem flatten_reseated (roots : List NamespaceRef) :
    (graph.reseated rename functions).flatten roots =
      (graph.flatten roots).mapError (Error.renamed rename) := by
  have same : (graph.reseated rename functions).flatten roots = graph.flatten roots := by
    apply flatten_congr
    exact fun _ => rfl
  rw [same]
  cases flattened : graph.flatten roots with
  | ok forest => rfl
  | error cause =>
    obtain ⟨root, rfl⟩ := blames_of_flatten flattened
    rfl

theorem areRivals_reseated : NamingState.areRivals (graph.reseated rename functions) =
    NamingState.areRivals graph := by
  funext entity holder
  rw [NamingState.areRivals, NamingState.areRivals, entity?_reseated, entity?_reseated]
  cases graph.entity? entity with
  | none => rfl
  | some self => cases graph.entity? holder <;> rfl

end Graph

section
variable (found : ∀ handle, (graph.reseated rename functions).function? (rename handle) =
  (graph.function? handle).map (NamingFunction.renamed rename))
include found

/-- An entity dangles where it did. -/
theorem Entity.dangling?_renamed (entity : Entity) (handle : EntityRef) :
    (entity.renamed rename).dangling? handle (graph.reseated rename functions) =
      (entity.dangling? handle graph).map (DanglingReference.renamed rename) := by
  simp only [Entity.dangling?, home_renamed, name_renamed, function?_renamed, dependencies_renamed,
    Graph.namespace?_reseated, Graph.entity?_reseated, Option.isNone_map]
  split
  · rfl
  · simp only [Option.map_or, Option.filter_map, Option.map_map, Function.comp_def, found,
      Option.isNone_map]
    rfl

theorem Graph.validate_reseated : (graph.reseated rename functions).validate =
    graph.validate.mapError (Error.renamed rename) := by
  have space (space : Namespace) : (space.dangling? graph).map (DanglingReference.renamed rename) =
      space.dangling? (graph.reseated rename functions) := by
    simp only [Namespace.dangling?, Option.map_or, Option.map_map]
    rfl
  have first : (graph.reseated rename functions).firstDangling? =
      graph.firstDangling?.map (DanglingReference.renamed rename) := by
    simp only [firstDangling?, Option.map_or, List.map_findSome?, Function.comp_def, space,
      ← Entity.dangling?_renamed found]
    simp only [reseated, Array.toList_map, List.zipIdx_map, List.findSome?_map]
    rfl
  rw [validate, validate, first]
  cases graph.firstDangling? <;> rfl

theorem renames_reseated (injective : Function.Injective rename) (guarded : Bool) :
    Renames rename guarded graph (graph.reseated rename functions) where
  injective := injective
  validate := Graph.validate_reseated found
  flatten := Graph.flatten_reseated
  members := rfl
  entities := rfl
  functions := found
  isEligible := rfl
  forbiddenNames _ _ := rfl
  areRivals := Graph.areRivals_reseated

end

end NameAssignment
