import NameAssignment.Proofs.Rounds

/-! What the forbidden names of a round keep out. Every name held in another namespace that must be
avoided is among them throughout the round, and in a guarded run so is every name held in the
namespace itself, the names given earlier in the round included. And they keep out no more: each of
them is held by somebody. -/
namespace NameAssignment.NamingState

variable {graph : Graph} {forest : List NamespaceRef} {space : NamespaceRef} {guarded : Bool}
  {state : NamingState} {ready : List EntityRef} {answer : List String}

/-- The forbidden names include all that `space` must be kept clear of: names held in the other
namespaces that it forbids and, if `guarded`, its own. -/
structure Guards (graph : Graph) (guarded : Bool) (space : NamespaceRef) (names : Names)
    (forbidden : NameSet) : Prop where
  elsewhere : ∀ {holder other name}, names.get? holder = some name →
    graph.entity? holder = some other → graph.forbids space other.home = true →
    other.home ≠ space → forbidden.contains name = true
  own : guarded = true → ∀ {holder other name}, names.get? holder = some name →
    graph.entity? holder = some other → other.home = space → forbidden.contains name = true

/-- A named entity is a member of its home. -/
theorem Orderly.member_home (linked : graph.Linked) (orderly : Orderly graph forest state)
    (held : state.names.get? holder = some name) (found : graph.entity? holder = some other) :
    holder ∈ graph.members other.home := by
  have named := (state.names.contains_eq_true_iff holder).mpr ⟨name, held⟩
  obtain ⟨place, -, member⟩ := List.mem_flatMap.mp (orderly.placed named)
  rw [linked.home_eq member found]
  exact member

/-- What is forbidden when a round begins: the names held in the namespaces that `space` forbids
and, if the run is guarded, in `space`. -/
theorem contains_forbiddenNames_iff {names : Names} :
    (graph.forbiddenNames names guarded space).contains name = true ↔
      ∃ other, (other ∈ graph.forbidden space ∨ guarded = true ∧ other = space) ∧
        ∃ holder ∈ graph.members other, names.get? holder = some name := by
  rw [Graph.forbiddenNames, NameSet.contains_ofList, decide_eq_true_eq, List.mem_filterMap]
  have avoided (other : NamespaceRef) :
      other ∈ graph.forbidden space ++ (if guarded then [space] else []) ↔
        other ∈ graph.forbidden space ∨ guarded = true ∧ other = space := by
    cases guarded <;> simp
  constructor
  · rintro ⟨holder, listed, held⟩
    obtain ⟨other, among, member⟩ := List.mem_flatMap.mp listed
    exact ⟨other, (avoided other).mp among, holder, member, held⟩
  · rintro ⟨other, among, holder, member, held⟩
    exact ⟨holder, List.mem_flatMap.mpr ⟨other, (avoided other).mpr among, member⟩, held⟩

/-- The names a round starts with guard its namespace. -/
theorem guards_start (linked : graph.Linked) (orderly : Orderly graph forest state)
    (guarded : Bool) (space : NamespaceRef) :
    Guards graph guarded space state.names (graph.forbiddenNames state.names guarded space) := by
  constructor
  · intro holder other name held found forbids differ
    have listed := (linked.forbids_iff _ _).mp forbids
    exact contains_forbiddenNames_iff.mpr
      ⟨other.home, .inl listed, holder, orderly.member_home linked held found, held⟩
  · intro isGuarded holder other name held found home
    exact contains_forbiddenNames_iff.mpr
      ⟨other.home, .inr ⟨isGuarded, home⟩, holder, orderly.member_home linked held found, held⟩

/-- After a batch of `space` the forbidden names still guard it. -/
theorem Guards.batch (linked : graph.Linked) {before after : NamingState × NameSet} {batch : Batch}
    (guards : Guards graph guarded space before.1.names before.2)
    (done : BatchNamed graph guarded space before after batch answer)
    (due : Due graph forest space ready before.1.names)
    (inside : ∀ member ∈ batch.members, member ∈ ready) :
    Guards graph guarded space after.1.names after.2 := by
  obtain ⟨-, adds, -⟩ := done.run due inside
  have grown {name : String} (old : before.2.contains name = true) :
      after.2.contains name = true := by
    rw [done.forbidden]
    split
    · rw [NameSet.contains_insertAll, old, Bool.or_true]
    · exact old
  constructor
  · intro holder other name held found forbids differ
    rcases adds.mp held with earlier | new
    · exact grown (guards.elsewhere earlier found forbids differ)
    · have member := due.member holder (inside holder (List.of_mem_zip new).1)
      exact absurd (linked.home_eq member found) differ
  · intro isGuarded holder other name held found home
    rcases adds.mp held with earlier | new
    · exact grown (guards.own isGuarded earlier found home)
    · have given : name ∈ answer := (List.of_mem_zip new).2
      rw [done.forbidden, if_pos isGuarded, NameSet.contains_insertAll]
      simp [given]

/-- Nothing is forbidden that is not held where it must be avoided. -/
def Backed (graph : Graph) (guarded : Bool) (space : NamespaceRef) (names : Names)
    (forbidden : NameSet) : Prop :=
  ∀ name, forbidden.contains name = true →
    (graph.forbiddenNames names guarded space).contains name = true

theorem Backed.mono {before after : Names} (backed : Backed graph guarded space before forbidden)
    (keeps : Keeps before after) : Backed graph guarded space after forbidden := by
  intro name listed
  obtain ⟨other, avoided, holder, member, held⟩ :=
    contains_forbiddenNames_iff.mp (backed name listed)
  exact contains_forbiddenNames_iff.mpr ⟨other, avoided, holder, member, keeps held⟩

/-- What a batch adds to the forbidden names is held by its members. -/
theorem BatchNamed.backed {before after : NamingState × NameSet} {batch : Batch}
    (done : BatchNamed graph guarded space before after batch answer)
    (due : Due graph forest space ready before.1.names)
    (inside : ∀ member ∈ batch.members, member ∈ ready)
    (backed : Backed graph guarded space before.1.names before.2) :
    Backed graph guarded space after.1.names after.2 := by
  obtain ⟨run, adds, -⟩ := done.run due inside
  have kept := backed.mono run.keeps
  rw [done.forbidden]
  cases guarded with
  | false => exact kept
  | true =>
    intro name listed
    rw [if_pos rfl, NameSet.contains_insertAll, Bool.or_eq_true, decide_eq_true_eq] at listed
    rcases listed with given | earlier
    · have count := (NamingFunction.audit_eq_ok_iff.mp done.audited).1
      obtain ⟨member, pair⟩ := exists_member_of_mem count given
      have home := due.member member (inside member (List.of_mem_zip pair).1)
      exact contains_forbiddenNames_iff.mpr
        ⟨space, .inr ⟨rfl, rfl⟩, member, home, adds.mpr (.inr pair)⟩
    · exact kept name earlier

/-- Between two batches of a round, with the calls it has made so far: what is forbidden to the next
call is held, and so is what was forbidden to the calls before. -/
structure Backing (graph : Graph) (forest : List NamespaceRef) (guarded : Bool)
    (space : NamespaceRef) (ready : List EntityRef) (start : NamingState) (batches : List Batch)
    (current : NamingState × NameSet) (made : List NamingCall) : Prop where
  underway : Underway graph forest space ready start batches current.1
  now : Backed graph guarded space current.1.names current.2
  before : ∀ call ∈ made, Backed graph guarded call.home current.1.names call.forbidden

theorem Backing.next {start : NamingState} {before after : NamingState × NameSet}
    (backing : Backing graph forest guarded space ready start (batch :: rest) before made)
    (ran : (nameBatch graph guarded space before batch).result = .ok after) :
    Backing graph forest guarded space ready start rest after
      (made ++ (nameBatch graph guarded space before batch).calls) := by
  obtain ⟨answer, done⟩ := nameBatch_ok ran
  have due := backing.underway.due
  have inside := backing.underway.inside batch List.mem_cons_self
  obtain ⟨run, -, -⟩ := done.run due inside
  refine ⟨backing.underway.next ran, done.backed due inside backing.now, ?_⟩
  intro call listed
  rw [done.logged] at listed
  rcases List.mem_append.mp listed with earlier | new
  · exact (backing.before call earlier).mono run.keeps
  · obtain rfl := List.mem_singleton.mp new
    exact backing.now.mono run.keeps

/-- What is forbidden to the calls of a round is held when it ends. -/
theorem round_backed (orderly : Orderly graph forest state)
    (picked : graph.next? state.names forest = some (space, ready))
    (ran : (round graph guarded state space ready).result = .ok named) :
    ∀ call ∈ (round graph guarded state space ready).calls,
      Backed graph guarded call.home named.names call.forbidden := by
  obtain ⟨due, -, -⟩ := orderly.due picked
  obtain ⟨batches, batched, divides⟩ := Graph.batches_of_canPropose due.can
  rw [round_eq_foldlM batched] at ran ⊢
  obtain ⟨last, folded, ran, logged⟩ := Logged.bind_ok ran
  cases ran
  have begun : Backing graph forest guarded space ready state batches
      (state, graph.forbiddenNames state.names guarded space) [] :=
    ⟨.begin due divides, fun _ listed => listed, fun _ made => by cases made⟩
  have done := Logged.foldlM_ok (Backing graph forest guarded space ready state) []
    Backing.next begun folded
  rw [logged, Logged.calls_pure, List.append_nil]
  exact done.before

/-- Between two batches of a round: beside what is under way, the forbidden names guard the
namespace, and the members still to be named have no name and stand in one batch each. -/
structure Guarding (graph : Graph) (forest : List NamespaceRef) (guarded : Bool)
    (space : NamespaceRef) (ready : List EntityRef) (start : NamingState) (batches : List Batch)
    (current : NamingState × NameSet) : Prop where
  underway : Underway graph forest space ready start batches current.1
  guards : Guards graph guarded space current.1.names current.2
  once : (batches.flatMap (·.members)).Nodup
  fresh : ∀ member ∈ batches.flatMap (·.members), current.1.names.get? member = none

theorem Guarding.begin (linked : graph.Linked) (orderly : Orderly graph forest state)
    (picked : graph.next? state.names forest = some (space, ready))
    (divides : graph.Divides state.names ready batches) :
    Guarding graph forest guarded space ready state batches
      (state, graph.forbiddenNames state.names guarded space) := by
  obtain ⟨due, -, unnamed⟩ := orderly.due picked
  obtain ⟨-, -, rfl, -⟩ := Graph.of_next?_eq_some picked
  refine ⟨.begin due divides, guards_start linked orderly guarded space, ?_, ?_⟩
  · exact divides.perm.nodup_iff.mpr ((linked.memberOnce space).filter _)
  · exact fun member waiting => unnamed member (divides.perm.subset waiting)

theorem Guarding.next (linked : graph.Linked) {start : NamingState}
    {before after : NamingState × NameSet}
    (guarding : Guarding graph forest guarded space ready start (batch :: rest) before)
    (ran : (nameBatch graph guarded space before batch).result = .ok after) :
    Guarding graph forest guarded space ready start rest after := by
  obtain ⟨answer, done⟩ := nameBatch_ok ran
  have due := guarding.underway.due
  have inside := guarding.underway.inside batch List.mem_cons_self
  obtain ⟨-, adds, -⟩ := done.run due inside
  have once := guarding.once
  rw [List.flatMap_cons, List.nodup_append] at once
  refine ⟨guarding.underway.next ran, guarding.guards.batch linked done due inside, once.2.1, ?_⟩
  intro member waiting
  cases held : after.1.names.get? member with
  | none => rfl
  | some name =>
    rcases adds.mp held with earlier | new
    · have later : member ∈ (batch :: rest).flatMap (·.members) := by
        rw [List.flatMap_cons]
        exact List.mem_append_right _ waiting
      rw [guarding.fresh member later] at earlier
      cases earlier
    · exact absurd rfl (once.2.2 member (List.of_mem_zip new).1 member waiting)

end NameAssignment.NamingState
