import Mathlib.Logic.Relation
import NameAssignment.Resolution
import NameAssignment.Proofs.Batches
import NameAssignment.Proofs.Links

/-! A naming run is seen here as a sequence of single assignments, whatever rounds and batches they
come from. Each gives a name to one ready member of an eligible namespace, and none is ever taken
back. `Orderly` is what every state between two assignments satisfies. -/
namespace NameAssignment

/-! ### Names are kept -/

/-- Every name of `before` is still there in `after`. -/
def Keeps (before after : Names) : Prop :=
  ∀ ⦃entity name⦄, before.get? entity = some name → after.get? entity = some name

namespace Keeps
variable {before middle after : Names} {graph : Graph}

theorem refl (names : Names) : Keeps names names := fun _ _ held => held

theorem trans (first : Keeps before middle) (second : Keeps middle after) : Keeps before after :=
  fun _ _ held => second (first held)

theorem contains (keeps : Keeps before after) {entity : EntityRef}
    (held : before.contains entity = true) : after.contains entity = true := by
  obtain ⟨name, found⟩ := (before.contains_eq_true_iff entity).mp held
  exact (after.contains_eq_true_iff entity).mpr ⟨name, keeps found⟩

/-- If nobody else has a name either, they are the same names. -/
theorem get?_eq (keeps : Keeps before after) {entity : EntityRef}
    (named : after.contains entity = true → before.contains entity = true) :
    before.get? entity = after.get? entity := by
  cases held : before.get? entity with
  | some name => exact (keeps held).symm
  | none =>
    cases given : after.get? entity with
    | none => rfl
    | some name =>
      have there := named ((after.contains_eq_true_iff entity).mpr ⟨name, given⟩)
      rw [(before.contains_eq_false_iff entity).mpr held] at there
      cases there

theorem isFullyNamed (keeps : Keeps before after) {space : NamespaceRef}
    (full : graph.isFullyNamed before space = true) : graph.isFullyNamed after space = true :=
  List.all_eq_true.mpr fun member listed => keeps.contains (List.all_eq_true.mp full member listed)

theorem isEligible (keeps : Keeps before after) {space : NamespaceRef}
    (eligible : graph.isEligible before space = true) : graph.isEligible after space = true := by
  simp only [Graph.isEligible, List.all_eq_true, Bool.or_eq_true, decide_eq_true_eq] at eligible ⊢
  exact fun other listed => (eligible other listed).imp id keeps.isFullyNamed

theorem isReady (keeps : Keeps before after) {entity : Entity}
    (ready : entity.isReady before = true) : entity.isReady after = true :=
  List.all_eq_true.mpr fun dependency listed =>
    keeps.contains (List.all_eq_true.mp ready dependency listed)

theorem canPropose (keeps : Keeps before after) {member : EntityRef}
    (can : graph.CanPropose before member) : graph.CanPropose after member := by
  obtain ⟨entity, found, free, ready⟩ := can
  exact ⟨entity, found, free, keeps.isReady ready⟩

end Keeps

namespace NamingState
variable {graph : Graph} {forest : List NamespaceRef} {state next : NamingState}

/-! ### One assignment -/

/-- The holders of a name are the entities that have it. -/
def Coherent (state : NamingState) : Prop :=
  ∀ ⦃name entity⦄, entity ∈ state.holdersOf name ↔ state.names.get? entity = some name

theorem coherent_start (graph : Graph) : (start graph).Coherent := by
  intro name entity
  simp [start, holdersOf]

theorem holdersOf_record (state : NamingState) (entity : EntityRef) (name other : String) :
    (state.record entity name).holdersOf other =
      if other = name then state.holdersOf name ++ [entity] else state.holdersOf other := by
  unfold holdersOf record
  rw [NameMap.get?_insert]
  split <;> rfl

theorem names_record (state : NamingState) (entity other : EntityRef) (name : String) :
    (state.record entity name).names.get? other =
      if entity = other then some name else state.names.get? other :=
  Table.get?_insert _ _ _ _

theorem keeps_record {entity : EntityRef} (unnamed : state.names.get? entity = none)
    (name : String) : Keeps state.names (state.record entity name).names := by
  intro other held found
  rw [names_record, if_neg]
  · exact found
  · rintro rfl
    rw [unnamed] at found
    cases found

theorem coherent_record (coherent : state.Coherent) {entity : EntityRef}
    (unnamed : state.names.get? entity = none) (name : String) :
    (state.record entity name).Coherent := by
  intro other holder
  rw [holdersOf_record, names_record]
  by_cases same : other = name
  · subst same
    rw [if_pos rfl, List.mem_append, List.mem_singleton, coherent]
    by_cases here : entity = holder
    · simp [here]
    · simp [here, Ne.symm here]
  · rw [if_neg same, coherent]
    by_cases here : entity = holder
    · subst here
      simp [unnamed, Ne.symm same]
    · simp [here]

theorem assign_ok_iff {entity : EntityRef} {name : String} :
    state.assign graph entity name = .ok next ↔ state.names.get? entity = none ∧
      state.rivalHolder? graph entity name = none ∧ next = state.record entity name := by
  unfold assign
  cases state.names.get? entity with
  | some held => simp
  | none =>
    cases state.rivalHolder? graph entity name with
    | some holder => simp
    | none => simp [eq_comm]

theorem areRivals_iff {entity holder : EntityRef} :
    areRivals graph entity holder = true ↔
      ∃ self other, graph.entity? entity = some self ∧ graph.entity? holder = some other ∧
        holder ≠ entity ∧ (other.home = self.home ∨ graph.forbids self.home other.home = true) := by
  unfold areRivals
  cases graph.entity? entity with
  | none => simp
  | some self =>
    cases graph.entity? holder with
    | none => simp
    | some other => simp

/-- A name is free for an entity exactly when no rival has it. -/
theorem rivalHolder?_eq_none_iff (coherent : state.Coherent) {entity : EntityRef} {name : String} :
    state.rivalHolder? graph entity name = none ↔
      ∀ holder, state.names.get? holder = some name → areRivals graph entity holder = false := by
  simp only [rivalHolder?, List.find?_eq_none, Bool.not_eq_true]
  exact forall_congr' fun holder => by rw [coherent]

/-- A name is refused on account of a rival that has it. -/
theorem of_rivalHolder?_eq_some (coherent : state.Coherent) {entity holder : EntityRef}
    {name : String} (found : state.rivalHolder? graph entity name = some holder) :
    state.names.get? holder = some name ∧ areRivals graph entity holder = true :=
  ⟨coherent.1 (List.mem_of_find?_eq_some found), List.find?_some found⟩

/-! ### Runs of assignments -/

/-- One assignment of a run: a ready member of an eligible namespace of the forest takes a name that
none of its rivals has. -/
inductive Advances (graph : Graph) (forest : List NamespaceRef) (state : NamingState) :
    NamingState → Prop
  | assign (listed : space ∈ forest) (member : handle ∈ graph.members space)
      (eligible : graph.isEligible state.names space = true)
      (can : graph.CanPropose state.names handle) (unnamed : state.names.get? handle = none)
      (unrivalled : state.rivalHolder? graph handle name = none) :
      Advances graph forest state (state.record handle name)

abbrev Reaches (graph : Graph) (forest : List NamespaceRef) : NamingState → NamingState → Prop :=
  Relation.ReflTransGen (Advances graph forest)

theorem Advances.keeps (step : Advances graph forest state next) :
    Keeps state.names next.names := by
  cases step with
  | assign _ _ _ _ unnamed _ => exact keeps_record unnamed _

theorem Reaches.keeps (run : Reaches graph forest state next) : Keeps state.names next.names := by
  induction run with
  | refl => exact Keeps.refl _
  | tail _ step ih => exact ih.trans step.keeps

/-- What one assignment preserves, a run preserves. -/
theorem Reaches.preserves {Holds : NamingState → Prop}
    (step : ∀ {before after}, Advances graph forest before after → Holds before → Holds after)
    (run : Reaches graph forest state next) (start : Holds state) : Holds next := by
  induction run with
  | refl => exact start
  | tail _ last ih => exact step last ih

/-- The invariant of a naming run. -/
structure Orderly (graph : Graph) (forest : List NamespaceRef) (state : NamingState) : Prop where
  coherent : state.Coherent
  /-- Only members of the forest are named. -/
  placed : ∀ {entity}, state.names.contains entity = true → entity ∈ forest.flatMap graph.members
  /-- Fixed members have their own name. -/
  literal : ∀ {member entity name}, member ∈ forest.flatMap graph.members →
    graph.entity? member = some entity → entity.source = .fixed name →
    state.names.get? member = some name
  /-- Where a name was made, the namespaces to be kept clear of were complete. -/
  settled : ∀ {handle entity other}, state.names.contains handle = true →
    graph.entity? handle = some entity → entity.isFixed = false →
    other ∈ graph.forbidden entity.home → other ≠ entity.home →
    graph.isFullyNamed state.names other = true

theorem isEligible_iff {names : Names} {space : NamespaceRef} :
    graph.isEligible names space = true ↔
      ∀ other ∈ graph.forbidden space, other ≠ space → graph.isFullyNamed names other = true := by
  simp only [Graph.isEligible, List.all_eq_true, Bool.or_eq_true, decide_eq_true_eq]
  exact forall₂_congr fun other listed => or_iff_not_imp_left

theorem Orderly.advance (linked : graph.Linked) (step : Advances graph forest state next)
    (orderly : Orderly graph forest state) : Orderly graph forest next := by
  have keeps := step.keeps
  cases step with
  | @assign space chosen name listed member eligible can unnamed unrivalled =>
    refine ⟨coherent_record orderly.coherent unnamed name, ?_, ?_, ?_⟩
    · intro entity named
      rw [record, Table.contains_insert, Bool.or_eq_true, decide_eq_true_eq] at named
      rcases named with rfl | named
      · exact List.mem_flatMap.mpr ⟨space, listed, member⟩
      · exact orderly.placed named
    · intro other entity literal inside found fixed
      exact keeps (orderly.literal inside found fixed)
    · intro handle entity other named found free forbidden differ
      rw [record, Table.contains_insert, Bool.or_eq_true, decide_eq_true_eq] at named
      rcases named with rfl | named
      · rw [linked.home_eq member found] at forbidden differ
        exact keeps.isFullyNamed (isEligible_iff.mp eligible other forbidden differ)
      · exact keeps.isFullyNamed (orderly.settled named found free forbidden differ)

theorem Orderly.reach (linked : graph.Linked) (orderly : Orderly graph forest state)
    (run : Reaches graph forest state next) : Orderly graph forest next :=
  run.preserves (Orderly.advance linked) orderly

/-! ### The fixed names -/

/-- What the fixed pass does with one member. -/
def assignIfFixed (graph : Graph) (state : NamingState) (member : EntityRef) :
    Except Error NamingState :=
  match graph.entity? member with
  | some ⟨_, _, .fixed name⟩ => state.assignUnchecked graph member name
  | _ => .ok state

theorem assignFixed_eq_foldlM : assignFixed graph forest =
    (forest.flatMap graph.members).foldlM (assignIfFixed graph) (start graph) := rfl

/-- Exactly the fixed ones among `members` are named, each as it wants to be. -/
structure HoldsFixed (graph : Graph) (members : List EntityRef) (state : NamingState) : Prop where
  coherent : state.Coherent
  named : ∀ {member name}, state.names.get? member = some name ↔ member ∈ members ∧
    ∃ entity, graph.entity? member = some entity ∧ entity.source = .fixed name

theorem holdsFixed_start : HoldsFixed graph [] (start graph) where
  coherent := coherent_start graph
  named := by simp [start]

/-- A member that is not fixed changes nothing. -/
theorem HoldsFixed.pass {members : List EntityRef} (holds : HoldsFixed graph members state)
    (free : ∀ entity, graph.entity? member = some entity → entity.isFixed = false) :
    HoldsFixed graph (members ++ [member]) state where
  coherent := holds.coherent
  named {other name} := by
    rw [holds.named, List.mem_append, List.mem_singleton]
    constructor
    · exact fun ⟨inside, fixed⟩ => ⟨.inl inside, fixed⟩
    · rintro ⟨inside | rfl, entity, found, source⟩
      · exact ⟨inside, entity, found, source⟩
      · have differs := free entity found
        simp [Entity.isFixed_iff.mpr ⟨name, source⟩] at differs

theorem HoldsFixed.unnamed {members : List EntityRef} (holds : HoldsFixed graph members state)
    (new : member ∉ members) : state.names.get? member = none := by
  cases held : state.names.get? member with
  | none => rfl
  | some name => exact absurd (holds.named.mp held).1 new

theorem HoldsFixed.record {members : List EntityRef} (holds : HoldsFixed graph members state)
    (new : member ∉ members) (found : graph.entity? member = some entity)
    (source : entity.source = .fixed literal) :
    HoldsFixed graph (members ++ [member]) (state.record member literal) := by
  refine ⟨coherent_record holds.coherent (holds.unnamed new) literal, ?_⟩
  intro other name
  rw [names_record, List.mem_append, List.mem_singleton]
  by_cases same : member = other
  · subst same
    simp [found, source]
  · rw [if_neg same, holds.named]
    simp [Ne.symm same]

theorem assignIfFixed_ok {members : List EntityRef} (holds : HoldsFixed graph members state)
    (new : member ∉ members) :
    ∃ next, assignIfFixed graph state member = .ok next ∧
      HoldsFixed graph (members ++ [member]) next := by
  cases found : graph.entity? member with
  | none =>
    refine ⟨state, by simp [assignIfFixed, found], holds.pass fun entity there => ?_⟩
    rw [found] at there
    cases there
  | some entity =>
    have only {other : Entity} (there : graph.entity? member = some other) : entity = other := by
      rw [found] at there
      exact Option.some.inj there
    obtain ⟨home, shown, source⟩ := entity
    cases source with
    | fixed literal =>
      have unnamed := holds.unnamed new
      exact ⟨state.record member literal, by simp [assignIfFixed, found, assignUnchecked, unnamed],
        holds.record new found rfl⟩
    | simple function proposed =>
      exact ⟨state, by simp [assignIfFixed, found], holds.pass fun other there => only there ▸ rfl⟩
    | dependent function dependencies combine =>
      exact ⟨state, by simp [assignIfFixed, found], holds.pass fun other there => only there ▸ rfl⟩

theorem fixed_pass {earlier rest : List EntityRef} (holds : HoldsFixed graph earlier state)
    (once : (earlier ++ rest).Nodup) :
    ∃ fixed, rest.foldlM (assignIfFixed graph) state = .ok fixed ∧
      HoldsFixed graph (earlier ++ rest) fixed := by
  induction rest generalizing earlier state with
  | nil => exact ⟨state, rfl, by simpa using holds⟩
  | cons member rest ih =>
    have shift : earlier ++ member :: rest = (earlier ++ [member]) ++ rest := by simp
    have new : member ∉ earlier := by
      intro inside
      exact (List.nodup_append.mp once).2.2 member inside member List.mem_cons_self rfl
    rw [shift] at once ⊢
    obtain ⟨next, assigned, holds⟩ := assignIfFixed_ok holds new
    obtain ⟨fixed, ran, done⟩ := ih holds once
    exact ⟨fixed, by rw [List.foldlM_cons, assigned]; exact ran, done⟩

/-- The fixed pass cannot fail, and names exactly the fixed members of the forest. -/
theorem assignFixed_holdsFixed (linked : graph.Linked) (once : forest.Nodup) :
    ∃ fixed, assignFixed graph forest = .ok fixed ∧
      HoldsFixed graph (forest.flatMap graph.members) fixed := by
  rw [assignFixed_eq_foldlM]
  exact fixed_pass holdsFixed_start (linked.nodup_flatMap_members once)

theorem HoldsFixed.isFixed {members : List EntityRef} (holds : HoldsFixed graph members state)
    (held : state.names.contains member = true) :
    ∃ entity, graph.entity? member = some entity ∧ entity.isFixed = true := by
  obtain ⟨name, found⟩ := (state.names.contains_eq_true_iff member).mp held
  obtain ⟨-, entity, there, source⟩ := holds.named.mp found
  exact ⟨entity, there, Entity.isFixed_iff.mpr ⟨name, source⟩⟩

/-- A run starts orderly. -/
theorem HoldsFixed.orderly (holds : HoldsFixed graph (forest.flatMap graph.members) state) :
    Orderly graph forest state := by
  refine ⟨holds.coherent, ?_, ?_, ?_⟩
  · intro entity held
    obtain ⟨name, found⟩ := (state.names.contains_eq_true_iff entity).mp held
    exact (holds.named.mp found).1
  · intro member entity name inside found source
    exact holds.named.mpr ⟨inside, entity, found, source⟩
  · intro handle entity other held found free
    obtain ⟨same, again, fixed⟩ := holds.isFixed held
    rw [found] at again
    cases again
    rw [free] at fixed
    cases fixed

end NamingState

end NameAssignment
