import NameAssignment.Proofs.Rounds
import NameAssignment.Proofs.Validity

/-! `Graph.resolve` reads nothing from a slot that is not there, and goes on. Here the run is
written once more with an index in place of every such look-up: one past the end of an arena is the
end of the run. Validation and the forest leave no such index to be taken, so the two runs are the
same, whatever the naming functions give. -/
namespace NameAssignment

/-- A run that indexes the arenas. -/
inductive Strict (α : Type)
  /-- Some index was past the end of its arena. -/
  | outOfRange
  | ran (run : Logged α)

namespace Strict
variable {α β σ : Type}

/-- Goes on after success only, as `Logged.bind` does. -/
def bind (first : Strict α) (next : α → Strict β) : Strict β :=
  match first with
  | outOfRange => outOfRange
  | ran ⟨calls, .error cause⟩ => ran ⟨calls, .error cause⟩
  | ran ⟨calls, .ok value⟩ =>
    match next value with
    | outOfRange => outOfRange
    | ran later => ran ⟨calls ++ later.calls, later.result⟩

instance : Monad Strict where
  pure value := ran (pure value)
  bind := bind

/-- The content of a slot that is looked up by index. -/
def index : Option α → Strict α
  | none => outOfRange
  | some value => pure value

theorem pure_bind (value : α) (next : α → Strict β) : (pure value >>= next) = next value := by
  change bind (ran ⟨[], .ok value⟩) next = next value
  cases run : next value <;> simp [bind, run]

theorem bind_assoc (first : Strict α) (next : α → Strict β) (last : β → Strict σ) :
    (first >>= next >>= last) = (first >>= fun value => next value >>= last) := by
  change bind (bind first next) last = bind first fun value => bind (next value) last
  rcases first with _ | ⟨calls, cause | value⟩
  · rfl
  · rfl
  · simp only [bind]
    rcases next value with _ | ⟨later, cause | middle⟩
    · rfl
    · rfl
    · simp only
      cases last middle <;> simp

theorem id_map (first : Strict α) : id <$> first = first := by
  change bind first (fun value => ran ⟨[], .ok value⟩) = first
  rcases first with _ | ⟨calls, cause | value⟩ <;> simp [bind]

instance : LawfulMonad Strict := LawfulMonad.mk' Strict id_map pure_bind bind_assoc

/-! ### The run by index -/

section Run
variable (graph : Graph)

def space (handle : NamespaceRef) : Strict Namespace := index (graph.namespace? handle)

def entity (handle : EntityRef) : Strict Entity := index (graph.entity? handle)

def label (handle : EntityRef) : Strict EntityLabel := do
  let found ← entity graph handle
  return ⟨found.name, handle⟩

/-- The members of several namespaces. -/
def members (spaces : List NamespaceRef) : Strict (List EntityRef) := do
  let found ← spaces.mapM (space graph)
  return found.flatMap (·.members)

def isFullyNamed (names : Names) (handle : NamespaceRef) : Strict Bool := do
  let found ← space graph handle
  return found.members.all names.contains

def isEligible (names : Names) (handle : NamespaceRef) : Strict Bool := do
  let found ← space graph handle
  (found.forbidden.toList.filter (· ≠ handle)).allM (isFullyNamed graph names)

def readyMembers (names : Names) (handle : NamespaceRef) : Strict (List EntityRef) := do
  let found ← space graph handle
  (found.members.filter (!names.contains ·)).filterM fun member => do
    let candidate ← entity graph member
    return candidate.isReady names

def next? (names : Names) (forest : List NamespaceRef) :
    Strict (Option (NamespaceRef × List EntityRef)) :=
  forest.findSomeM? fun handle => do
    if ← isEligible graph names handle then
      let ready ← readyMembers graph names handle
      return if ready.isEmpty then none else some (handle, ready)
    else return none

def forbiddenNames (names : Names) (guarded : Bool) (handle : NamespaceRef) :
    Strict NameSet := do
  let found ← space graph handle
  let holders ← members graph (found.forbidden.toList ++ if guarded then [handle] else [])
  return .ofList (holders.filterMap names.get?)

def candidates (names : Names) : List EntityRef → Strict (List Candidate)
  | [] => return []
  | member :: rest => do
    let found ← entity graph member
    match found.function? with
    | none => candidates names rest
    | some function =>
      let proposed ← ran (.of (found.propose member names))
      let others ← candidates names rest
      return ⟨member, function, proposed⟩ :: others

/-- The first holder of a name that may not share it. -/
def rivalHolder? (state : NamingState) (member : EntityRef) (name : String) :
    Strict (Option EntityRef) := do
  let self ← entity graph member
  let home ← space graph self.home
  (state.holdersOf name).findM? fun holder => do
    let other ← entity graph holder
    return holder ≠ member && (other.home = self.home || home.forbids other.home)

def assignUnchecked (state : NamingState) (member : EntityRef) (name : String) :
    Strict NamingState :=
  match state.names.get? member with
  | some held => do
    let refused ← label graph member
    ran (.of (.error (.assignedTwice refused held name)))
  | none => return state.record member name

def assign (state : NamingState) (member : EntityRef) (name : String) : Strict NamingState := do
  match state.names.get? member with
  | some held =>
    let refused ← label graph member
    ran (.of (.error (.assignedTwice refused held name)))
  | none =>
    match ← rivalHolder? graph state member name with
    | some holder =>
      let refused ← label graph member
      let rival ← label graph holder
      ran (.of (.error (.nameTaken refused rival name)))
    | none => return state.record member name

/-- A clash of fixed names is only warned of, but the warning names the holder. -/
def assignIfFixed (state : NamingState) (member : EntityRef) : Strict NamingState := do
  let found ← entity graph member
  match found.source with
  | .fixed name =>
    match ← rivalHolder? graph state member name with
    | some holder =>
      let _ ← label graph holder
      assignUnchecked graph state member name
    | none => assignUnchecked graph state member name
  | _ => return state

def assignFixed (forest : List NamespaceRef) : Strict NamingState := do
  let listed ← members graph forest
  listed.foldlM (assignIfFixed graph) (.start graph)

def assignAll : NamingState → List (EntityRef × String) → Strict NamingState
  | state, [] => return state
  | state, (member, name) :: rest => do
    let assigned ← assign graph state member name
    assignAll assigned rest

def nameBatch (guarded : Bool) (handle : NamespaceRef) (current : NamingState × NameSet)
    (batch : Batch) : Strict (NamingState × NameSet) :=
  let (state, forbidden) := current
  match graph.function? batch.function with
  | none => ran (.of (.error (.dangling (.batchFunction batch.function))))
  | some function => do
    let names ← ran (.call ⟨handle, batch, forbidden, state.names⟩ do
      let names ← function batch.proposed forbidden batch.members.length
      NamingFunction.audit batch.function batch.proposed forbidden batch.members.length names
      return names)
    let assigned ← assignAll graph state (batch.members.zip names)
    return (assigned, if guarded then forbidden.insertAll names else forbidden)

/-- The namespace is looked up once more, for the name it has in messages. -/
def round (guarded : Bool) (state : NamingState) (handle : NamespaceRef)
    (ready : List EntityRef) : Strict NamingState := do
  let forbidden ← forbiddenNames graph state.names guarded handle
  let found ← candidates graph state.names ready
  let _ ← space graph handle
  let (named, _) ←
    (Batch.ofCandidates found).foldlM (nameBatch graph guarded handle) (state, forbidden)
  return named

def rounds (guarded : Bool) (forest : List NamespaceRef) :
    Nat → Nat → NamingState → Strict (NamingState × Nat)
  | 0, done, state => return (state, done)
  | fuel + 1, done, state => do
    match ← next? graph state.names forest with
    | none => return (state, done)
    | some (handle, ready) =>
      let named ← round graph guarded state handle ready
      rounds guarded forest fuel (done + 1) named

def unnamed (names : Names) (forest : List NamespaceRef) : Strict (List EntityRef) := do
  let listed ← members graph forest
  return listed.filter (!names.contains ·)

/-- Validation and the forest look handles up without an index. -/
def resolve (guarded : Bool) (roots : List NamespaceRef) : Strict Resolution := do
  ran (.of graph.validate)
  let forest ← ran (.of (graph.flatten roots))
  let fixed ← assignFixed graph forest
  let (state, done) ← rounds graph guarded forest (graph.entities.size + 1) 0 fixed
  let left ← unnamed graph state.names forest
  return ⟨state.names, left, done⟩

end Run

/-! ### When two runs are the same -/

/-- Two parts in a row are the same if the first is, and the second after its success. -/
theorem bind_eq {first : Strict α} {next : α → Strict β} {run : Logged α} {after : α → Logged β}
    (same : first = ran run)
    (each : ∀ value, run.result = .ok value → next value = ran (after value)) :
    (first >>= next) = ran (run >>= after) := by
  subst same
  change bind (ran run) next = ran (run.bind after)
  obtain ⟨calls, cause | value⟩ := run
  · rfl
  · simp [bind, Logged.bind, each value rfl]

theorem allM_eq {f : α → Strict Bool} {test : α → Bool} {items : List α}
    (each : ∀ item ∈ items, f item = pure (test item)) : items.allM f = pure (items.all test) := by
  induction items with
  | nil => rfl
  | cons item rest ih =>
    obtain ⟨here, later⟩ := List.forall_mem_cons.mp each
    rw [List.allM, here, pure_bind, List.all_cons]
    cases test item with
    | false => rfl
    | true => exact ih later

theorem findM?_eq {f : α → Strict Bool} {test : α → Bool} {items : List α}
    (each : ∀ item ∈ items, f item = pure (test item)) :
    items.findM? f = pure (items.find? test) := by
  induction items with
  | nil => rfl
  | cons item rest ih =>
    obtain ⟨here, later⟩ := List.forall_mem_cons.mp each
    rw [List.findM?, here, pure_bind, List.find?_cons]
    cases test item with
    | false => exact ih later
    | true => rfl

theorem findSomeM?_eq {f : α → Strict (Option β)} {pick : α → Option β} {items : List α}
    (each : ∀ item ∈ items, f item = pure (pick item)) :
    items.findSomeM? f = pure (items.findSome? pick) := by
  induction items with
  | nil => rfl
  | cons item rest ih =>
    obtain ⟨here, later⟩ := List.forall_mem_cons.mp each
    rw [List.findSomeM?, here, pure_bind, List.findSome?_cons]
    cases pick item with
    | none => exact ih later
    | some picked => rfl

theorem filterM_eq {f : α → Strict Bool} {test : α → Bool} {items : List α}
    (each : ∀ item ∈ items, f item = pure (test item)) :
    items.filterM f = pure (items.filter test) := by
  suffices grown : ∀ kept, items.filterAuxM f kept = pure ((items.filter test).reverse ++ kept) by
    rw [List.filterM, grown, pure_bind, List.append_nil, List.reverse_reverse]
  induction items with
  | nil => exact fun _ => rfl
  | cons item rest ih =>
    intro kept
    obtain ⟨here, later⟩ := List.forall_mem_cons.mp each
    rw [List.filterAuxM, here, pure_bind, List.filter_cons, ih later]
    cases test item <;> simp

/-- Two folds are the same if their steps are, on the states that an invariant lets through. -/
theorem foldlM_eq {f : σ → α → Strict σ} {g : σ → α → Logged σ} {items : List α}
    (Holds : σ → Prop)
    (each : ∀ item ∈ items, ∀ state, Holds state → f state item = ran (g state item) ∧
      ∀ next, (g state item).result = .ok next → Holds next)
    (start : Holds state) : items.foldlM f state = ran (items.foldlM g state) ∧
      ∀ final, (items.foldlM g state).result = .ok final → Holds final := by
  induction items generalizing state with
  | nil =>
    refine ⟨rfl, fun final ended => ?_⟩
    cases ended
    exact start
  | cons item rest ih =>
    obtain ⟨here, later⟩ := List.forall_mem_cons.mp each
    obtain ⟨same, kept⟩ := here state start
    rw [List.foldlM_cons, List.foldlM_cons]
    constructor
    · exact bind_eq same fun next went => (ih later (kept next went)).1
    · intro final ended
      obtain ⟨middle, first, last, -⟩ := Logged.bind_ok ended
      exact (ih later (kept middle first)).2 final last

/-! ### What is looked up is there -/

section Agreement
variable {graph : Graph} {names : Names} {handle : NamespaceRef}

theorem space_eq (found : graph.namespace? handle = some record) :
    space graph handle = pure record := by
  rw [space, found, index]

theorem entity_eq {member : EntityRef} (found : graph.entity? member = some record) :
    entity graph member = pure record := by
  rw [entity, found, index]

theorem label_eq {member : EntityRef} (there : (graph.entity? member).isSome = true) :
    label graph member = pure (graph.label member) := by
  obtain ⟨record, found⟩ := Option.isSome_iff_exists.mp there
  rw [label, entity_eq found, pure_bind, Graph.label, found]
  rfl

theorem members_eq {spaces : List NamespaceRef}
    (there : ∀ space ∈ spaces, (graph.namespace? space).isSome = true) :
    members graph spaces = pure (spaces.flatMap graph.members) := by
  suffices read : ∃ found, spaces.mapM (space graph) = pure found ∧
      found.flatMap (·.members) = spaces.flatMap graph.members by
    obtain ⟨found, ran, same⟩ := read
    rw [members, ran, pure_bind, same]
  induction spaces with
  | nil => exact ⟨[], rfl, rfl⟩
  | cons handle rest ih =>
    obtain ⟨here, later⟩ := List.forall_mem_cons.mp there
    obtain ⟨record, found⟩ := Option.isSome_iff_exists.mp here
    obtain ⟨others, ran, same⟩ := ih later
    refine ⟨record :: others, ?_, ?_⟩
    · rw [List.mapM_cons, space_eq found, pure_bind, ran, pure_bind]
    · rw [List.flatMap_cons, List.flatMap_cons, same, Graph.members, found]
      rfl

theorem isFullyNamed_eq (there : (graph.namespace? handle).isSome = true) :
    isFullyNamed graph names handle = pure (graph.isFullyNamed names handle) := by
  obtain ⟨record, found⟩ := Option.isSome_iff_exists.mp there
  rw [isFullyNamed, space_eq found, pure_bind, Graph.isFullyNamed, Graph.members, found]
  rfl

theorem isEligible_eq (valid : graph.Valid) (there : (graph.namespace? handle).isSome = true) :
    isEligible graph names handle = pure (graph.isEligible names handle) := by
  obtain ⟨record, found⟩ := Option.isSome_iff_exists.mp there
  have full : ∀ other ∈ record.forbidden.toList.filter (· ≠ handle),
      isFullyNamed graph names other = pure (graph.isFullyNamed names other) :=
    fun other listed =>
      isFullyNamed_eq (valid.forbidden found other (List.mem_of_mem_filter listed))
  rw [isEligible, space_eq found, pure_bind, allM_eq full, List.all_filter, Graph.isEligible,
    Graph.forbidden, found]
  simp

theorem readyMembers_eq (linked : graph.Linked) (there : (graph.namespace? handle).isSome = true) :
    readyMembers graph names handle = pure (graph.readyMembers names handle) := by
  obtain ⟨record, found⟩ := Option.isSome_iff_exists.mp there
  have listed : graph.members handle = record.members := by simp [Graph.members, found]
  have ready : ∀ member ∈ record.members.filter (!names.contains ·),
      (entity graph member >>= fun candidate => pure (candidate.isReady names)) =
        pure (((graph.entity? member).map (·.isReady names)).getD false) := by
    intro member inside
    rw [← listed] at inside
    obtain ⟨candidate, known, -⟩ := linked.housed (List.mem_of_mem_filter inside)
    rw [entity_eq known, pure_bind, known]
    rfl
  rw [readyMembers, space_eq found, pure_bind, filterM_eq ready, List.filter_filter,
    Graph.readyMembers, listed]
  simp only [Bool.and_comm]

theorem next?_eq (linked : graph.Linked) (valid : graph.Valid) {forest : List NamespaceRef}
    (there : ∀ space ∈ forest, (graph.namespace? space).isSome = true) :
    next? graph names forest = pure (graph.next? names forest) := by
  apply findSomeM?_eq
  intro handle listed
  rw [isEligible_eq valid (there handle listed), pure_bind]
  cases graph.isEligible names handle with
  | false => rfl
  | true =>
    simp only [if_true, readyMembers_eq linked (there handle listed), pure_bind]
    cases (graph.readyMembers names handle).isEmpty <;> simp

theorem forbiddenNames_eq (valid : graph.Valid) {guarded : Bool}
    (there : (graph.namespace? handle).isSome = true) :
    forbiddenNames graph names guarded handle =
      pure (graph.forbiddenNames names guarded handle) := by
  obtain ⟨record, found⟩ := Option.isSome_iff_exists.mp there
  have avoided : graph.forbidden handle = record.forbidden.toList := by
    simp [Graph.forbidden, found]
  have known : ∀ other ∈ record.forbidden.toList ++ if guarded then [handle] else [],
      (graph.namespace? other).isSome = true := by
    intro other listed
    rcases List.mem_append.mp listed with forbidden | own
    · exact valid.forbidden found other forbidden
    · cases guarded with
      | false => cases own
      | true => exact List.mem_singleton.mp own ▸ there
  rw [forbiddenNames, space_eq found, pure_bind, members_eq known, pure_bind, Graph.forbiddenNames,
    avoided]

theorem candidates_eq {ready : List EntityRef}
    (there : ∀ member ∈ ready, (graph.entity? member).isSome = true) :
    candidates graph names ready = ran (.of (graph.candidates names ready)) := by
  induction ready with
  | nil => rfl
  | cons member rest ih =>
    obtain ⟨here, later⟩ := List.forall_mem_cons.mp there
    obtain ⟨record, found⟩ := Option.isSome_iff_exists.mp here
    rw [candidates, entity_eq found, pure_bind, ih later]
    simp only [Graph.candidates, found]
    cases record.function? with
    | none => rfl
    | some function =>
      dsimp only
      cases record.propose member names with
      | error cause => rfl
      | ok proposed => cases graph.candidates names rest <;> rfl

theorem known_of_candidates {ready : List EntityRef}
    (ran : graph.candidates names ready = .ok found) :
    ∀ candidate ∈ found, (graph.entity? candidate.entity).isSome = true := by
  fun_induction Graph.candidates graph names ready generalizing found with
  | case1 =>
    cases ran
    simp
  | case2 member rest missing ih => exact ih ran
  | case3 member rest record there fixed ih => exact ih ran
  | case4 member rest record there function asked cause failed => cases ran
  | case5 member rest record there function asked proposed proposes ih =>
    cases later : graph.candidates names rest with
    | error cause =>
      rw [later] at ran
      cases ran
    | ok others =>
      rw [later] at ran
      cases ran
      exact List.forall_mem_cons.mpr ⟨Option.isSome_of_eq_some there, ih later⟩

/-! ### Assignments by index -/

variable {state next : NamingState} {member : EntityRef} {name : String}

/-- Only entities of the graph hold names. -/
def Known (graph : Graph) (state : NamingState) : Prop :=
  ∀ name, ∀ holder ∈ state.holdersOf name, (graph.entity? holder).isSome = true

theorem known_start (graph : Graph) : Known graph (.start graph) := by
  intro name holder held
  simp [NamingState.start, NamingState.holdersOf] at held

theorem Known.record (known : Known graph state) (there : (graph.entity? member).isSome = true)
    (name : String) : Known graph (state.record member name) := by
  intro other holder held
  rw [NamingState.holdersOf_record] at held
  split at held
  · rcases List.mem_append.mp held with old | new
    · exact known name holder old
    · exact List.mem_singleton.mp new ▸ there
  · exact known other holder held

theorem rivalHolder?_eq (valid : graph.Valid) (known : Known graph state)
    (there : (graph.entity? member).isSome = true) :
    rivalHolder? graph state member name = pure (state.rivalHolder? graph member name) := by
  obtain ⟨self, found⟩ := Option.isSome_iff_exists.mp there
  obtain ⟨home, housed⟩ := Option.isSome_iff_exists.mp (valid.home found)
  rw [rivalHolder?, entity_eq found, pure_bind, space_eq housed, pure_bind,
    NamingState.rivalHolder?]
  apply findM?_eq
  intro holder held
  obtain ⟨other, present⟩ := Option.isSome_iff_exists.mp (known name holder held)
  rw [entity_eq present, pure_bind]
  simp only [NamingState.areRivals, found, present, Graph.forbids, housed, Option.map_some,
    Option.getD_some]

theorem assignUnchecked_eq (there : (graph.entity? member).isSome = true) :
    assignUnchecked graph state member name =
      ran (.of (state.assignUnchecked graph member name)) := by
  unfold assignUnchecked NamingState.assignUnchecked
  cases state.names.get? member with
  | some held => simp only [label_eq there, pure_bind]
  | none => rfl

theorem assign_eq (valid : graph.Valid) (known : Known graph state)
    (there : (graph.entity? member).isSome = true) :
    assign graph state member name = ran (.of (state.assign graph member name)) := by
  unfold assign NamingState.assign
  cases state.names.get? member with
  | some held => simp only [label_eq there, pure_bind]
  | none =>
    simp only [rivalHolder?_eq valid known there, pure_bind]
    cases clash : state.rivalHolder? graph member name with
    | none => rfl
    | some holder =>
      have held := known name holder (List.mem_of_find?_eq_some clash)
      simp only [label_eq there, label_eq held, pure_bind]

theorem Known.assign (known : Known graph state) (there : (graph.entity? member).isSome = true)
    (ran : state.assign graph member name = .ok next) : Known graph next := by
  obtain ⟨-, -, rfl⟩ := NamingState.assign_ok_iff.mp ran
  exact known.record there name

theorem assignAll_eq (valid : graph.Valid) {pairs : List (EntityRef × String)}
    (there : ∀ pair ∈ pairs, (graph.entity? pair.1).isSome = true) (known : Known graph state) :
    assignAll graph state pairs = ran (.of (state.assignAll graph pairs)) ∧
      ∀ next, state.assignAll graph pairs = .ok next → Known graph next := by
  induction pairs generalizing state with
  | nil =>
    refine ⟨rfl, fun next ended => ?_⟩
    cases ended
    exact known
  | cons pair rest ih =>
    obtain ⟨member, name⟩ := pair
    obtain ⟨here, later⟩ := List.forall_mem_cons.mp there
    rw [assignAll, assign_eq valid known here, NamingState.assignAll]
    cases assigned : state.assign graph member name with
    | error cause => exact ⟨rfl, fun next ended => by cases ended⟩
    | ok middle =>
      obtain ⟨same, kept⟩ := ih later (known.assign here assigned)
      exact ⟨(pure_bind _ _).trans same, kept⟩

theorem assignIfFixed_eq (valid : graph.Valid) (known : Known graph state)
    (there : (graph.entity? member).isSome = true) :
    assignIfFixed graph state member =
      ran (.of (NamingState.assignIfFixed graph state member)) := by
  obtain ⟨record, found⟩ := Option.isSome_iff_exists.mp there
  obtain ⟨home, shown, source⟩ := record
  rw [assignIfFixed, entity_eq found, pure_bind, NamingState.assignIfFixed, found]
  cases source with
  | fixed name =>
    simp only [rivalHolder?_eq valid known there, pure_bind]
    cases clash : state.rivalHolder? graph member name with
    | none => exact assignUnchecked_eq there
    | some holder =>
      have held := known name holder (List.mem_of_find?_eq_some clash)
      simp only [label_eq held, pure_bind]
      exact assignUnchecked_eq there
  | simple function proposed => rfl
  | dependent function dependencies combine => rfl

theorem Known.assignIfFixed (known : Known graph state)
    (there : (graph.entity? member).isSome = true)
    (ran : NamingState.assignIfFixed graph state member = .ok next) : Known graph next := by
  unfold NamingState.assignIfFixed at ran
  split at ran
  · rename_i name found
    unfold NamingState.assignUnchecked at ran
    split at ran
    · cases ran
    · cases ran
      exact known.record there name
  · cases ran
    exact known

theorem assignFixed_eq (linked : graph.Linked) (valid : graph.Valid) {forest : List NamespaceRef}
    (there : ∀ space ∈ forest, (graph.namespace? space).isSome = true) :
    assignFixed graph forest = ran (.of (NamingState.assignFixed graph forest)) ∧
      ∀ fixed, NamingState.assignFixed graph forest = .ok fixed → Known graph fixed := by
  have housed : ∀ member ∈ forest.flatMap graph.members, (graph.entity? member).isSome = true :=
    fun member placed => linked.known_of_placed placed
  have folded := foldlM_eq (Known graph) (fun member inside state known =>
    ⟨assignIfFixed_eq valid known (housed member inside),
      fun next ran => known.assignIfFixed (housed member inside) ran⟩) (known_start graph)
  rw [Logged.foldlM_of, ← NamingState.assignFixed_eq_foldlM] at folded
  rw [assignFixed, members_eq there, pure_bind]
  exact folded

/-! ### Rounds by index -/

variable (guarded : Bool) {ready : List EntityRef}

theorem nameBatch_eq (valid : graph.Valid) (handle : NamespaceRef)
    {current : NamingState × NameSet} (known : Known graph current.1)
    (there : ∀ member ∈ batch.members, (graph.entity? member).isSome = true) :
    nameBatch graph guarded handle current batch =
      ran (NamingState.nameBatch graph guarded handle current batch) ∧
    ∀ next, (NamingState.nameBatch graph guarded handle current batch).result = .ok next →
      Known graph next.1 := by
  have within (answer : List String) : ∀ pair ∈ batch.members.zip answer,
      (graph.entity? pair.1).isSome = true :=
    fun pair zipped => there pair.1 (List.of_mem_zip zipped).1
  constructor
  · obtain ⟨state, forbidden⟩ := current
    unfold nameBatch NamingState.nameBatch
    cases graph.function? batch.function with
    | none => rfl
    | some function =>
      simp only [Logged.call]
      cases function batch.proposed forbidden batch.members.length with
      | error cause => rfl
      | ok answer =>
        dsimp only [Bind.bind, Except.bind]
        cases NamingFunction.audit batch.function batch.proposed forbidden batch.members.length
          answer with
        | error cause => rfl
        | ok _ =>
          have same := (assignAll_eq valid (within answer) known).1
          simp only [bind, pure, Except.pure, same]
          cases NamingState.assignAll graph state (batch.members.zip answer) <;> rfl
  · intro next named
    obtain ⟨answer, done⟩ := NamingState.nameBatch_ok named
    exact (assignAll_eq valid (within answer) known).2 next.1 done.assigned

theorem round_eq (valid : graph.Valid) (known : Known graph state)
    (housed : (graph.namespace? handle).isSome = true)
    (there : ∀ member ∈ ready, (graph.entity? member).isSome = true) :
    round graph guarded state handle ready =
      ran (NamingState.round graph guarded state handle ready) ∧
    ∀ next, (NamingState.round graph guarded state handle ready).result = .ok next →
      Known graph next := by
  obtain ⟨record, found⟩ := Option.isSome_iff_exists.mp housed
  rw [round, forbiddenNames_eq valid housed, pure_bind, candidates_eq there]
  cases listed : graph.candidates state.names ready with
  | error cause =>
    have failed : NamingState.round graph guarded state handle ready = .of (.error cause) := by
      rw [NamingState.round, Graph.batches, listed]
      rfl
    rw [failed]
    exact ⟨rfl, fun next ended => by cases ended⟩
  | ok candidates =>
    have batched : graph.batches state.names ready = .ok (Batch.ofCandidates candidates) := by
      rw [Graph.batches, listed, Except.map]
    have inside : ∀ batch ∈ Batch.ofCandidates candidates, ∀ member ∈ batch.members,
        (graph.entity? member).isSome = true := by
      intro batch formed member within
      obtain ⟨candidate, asked, rfl, -⟩ := (Batch.of_mem_ofCandidates formed).2 member within
      exact known_of_candidates listed candidate asked
    obtain ⟨same, kept⟩ := foldlM_eq (fun current : NamingState × NameSet => Known graph current.1)
      (fun batch formed current held =>
        nameBatch_eq guarded valid handle held (inside batch formed))
      (show Known graph (state, graph.forbiddenNames state.names guarded handle).1 from known)
    rw [NamingState.round_eq_foldlM batched]
    constructor
    · change (pure candidates >>= _) = _
      rw [pure_bind, space_eq found, pure_bind]
      exact bind_eq same fun _ _ => rfl
    · intro next ended
      obtain ⟨last, folded, ended, -⟩ := Logged.bind_ok ended
      cases ended
      exact kept last folded

theorem rounds_eq (linked : graph.Linked) (valid : graph.Valid) {forest : List NamespaceRef}
    (there : ∀ space ∈ forest, (graph.namespace? space).isSome = true) (fuel done : Nat)
    (known : Known graph state) : rounds graph guarded forest fuel done state =
      ran (NamingState.rounds graph guarded forest fuel done state) := by
  induction fuel generalizing done state with
  | zero => rfl
  | succ fuel ih =>
    rw [rounds, next?_eq linked valid there, pure_bind, NamingState.rounds]
    cases picked : graph.next? state.names forest with
    | none => rfl
    | some choice =>
      obtain ⟨space, ready⟩ := choice
      obtain ⟨listed, -, rfl, -⟩ := Graph.of_next?_eq_some picked
      have housed : ∀ member ∈ graph.readyMembers state.names space,
          (graph.entity? member).isSome = true := by
        intro member chosen
        obtain ⟨-, -, entity, found, -⟩ := Graph.mem_readyMembers.mp chosen
        exact Option.isSome_of_eq_some found
      obtain ⟨same, kept⟩ := round_eq guarded valid known (there space listed) housed
      exact bind_eq same fun next named => ih (done + 1) (kept next named)

theorem unnamed_eq {forest : List NamespaceRef}
    (there : ∀ space ∈ forest, (graph.namespace? space).isSome = true) :
    unnamed graph names forest = pure (graph.unnamed names forest) := by
  rw [unnamed, members_eq there, pure_bind, Graph.unnamed]

/-- **No index is out of range.** Whatever the roots and the naming functions, the run by index is
the run. -/
theorem resolve_eq (linked : graph.Linked) (roots : List NamespaceRef) :
    resolve graph guarded roots = ran (graph.resolve guarded roots) := by
  -- Each part may rely on the success of those before it: this is where validation comes in.
  refine bind_eq rfl fun _ accepted => bind_eq rfl fun forest flattened => ?_
  have valid := Graph.validate_ok_iff.mp accepted
  have there := Graph.known_of_flatten linked flattened
  obtain ⟨same, known⟩ := assignFixed_eq linked valid there
  refine bind_eq same fun fixed ended => ?_
  refine bind_eq (rounds_eq guarded linked valid there _ 0 (known fixed ended)) ?_
  rintro ⟨final, done⟩ -
  dsimp only
  rw [unnamed_eq there, pure_bind]
  rfl

end Agreement

end Strict
end NameAssignment
