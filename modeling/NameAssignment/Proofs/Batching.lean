import Mathlib.Data.List.Induction
import Mathlib.Data.List.Nodup
import NameAssignment.Graph.History
import NameAssignment.Proofs.Batches

/-! The order of batches. Members are grouped twice, by naming function and then by proposal, and
both times a group stands where its key is first met. So all batches of one function stand together
even where members with different functions alternate, and within a batch nothing is reordered. They
are the batches that come about when members are placed one after the other into groups within
groups. -/
namespace NameAssignment.Batching

/-! ### What is met first -/

section Precedence
variable {α β : Type} {items : List α} {First Second : α → Prop}

/-- In a list something of the first kind is met before anything of the second. -/
def Precedes (items : List α) (First Second : α → Prop) : Prop :=
  ∃ earlier item later, items = earlier ++ item :: later ∧ First item ∧
    ∀ other ∈ earlier, ¬ Second other

/-- Of two kinds that have nothing in common only one can precede the other. -/
theorem Precedes.asymm (precedes : Precedes items First Second)
    (apart : ∀ item ∈ items, First item → ¬ Second item) : ¬ Precedes items Second First := by
  rintro ⟨front, other, back, again, second, noFirst⟩
  obtain ⟨earlier, item, later, rfl, first, noSecond⟩ := precedes
  -- The two that are met first stand at one place, or one of them is met too early.
  rcases List.append_eq_append_iff.mp again with ⟨between, rfl, rest⟩ | ⟨between, rfl, rest⟩
  · cases between with
    | nil =>
      obtain ⟨rfl, -⟩ : item = other ∧ _ := List.cons.inj rest
      exact apart item (by simp) first second
    | cons next between =>
      obtain ⟨rfl, -⟩ : item = next ∧ _ := List.cons.inj rest
      exact noFirst item (by simp) first
  · cases between with
    | nil =>
      obtain ⟨rfl, -⟩ : other = item ∧ _ := List.cons.inj rest
      exact apart other (by simp) first second
    | cons next between =>
      obtain ⟨rfl, -⟩ : other = next ∧ _ := List.cons.inj rest
      exact noSecond other (by simp) second

/-- The order is kept when every item is replaced by something of the same kind. -/
theorem Precedes.map {f : α → β} {Third Fourth : β → Prop} (precedes : Precedes items First Second)
    (first : ∀ item ∈ items, First item → Third (f item))
    (second : ∀ item ∈ items, Fourth (f item) → Second item) :
    Precedes (items.map f) Third Fourth := by
  obtain ⟨earlier, item, later, rfl, here, before⟩ := precedes
  refine ⟨earlier.map f, f item, later.map f, by simp, first item (by simp) here, ?_⟩
  intro other listed
  obtain ⟨source, early, rfl⟩ := List.mem_map.mp listed
  exact fun fourth => before source early (second source (by simp [early]) fourth)

/-- The order is kept when the list goes on. -/
theorem Precedes.append (precedes : Precedes items First Second) (rest : List α) :
    Precedes (items ++ rest) First Second := by
  obtain ⟨earlier, item, later, rfl, here, before⟩ := precedes
  exact ⟨earlier, item, later ++ rest, by simp, here, before⟩

/-- What precedes in a part of a list does so in the list, as far as that part is concerned. -/
theorem Precedes.of_filter {test : α → Bool}
    (precedes : Precedes (items.filter test) First Second) :
    Precedes items (fun item => test item = true ∧ First item)
      fun item => test item = true ∧ Second item := by
  obtain ⟨earlier, item, later, split, first, before⟩ := precedes
  obtain ⟨front, back, rfl, rfl, rest⟩ := List.filter_eq_append_iff.mp split
  obtain ⟨passed, back, rfl, none, kept, -⟩ := List.filter_eq_cons_iff.mp rest
  refine ⟨front ++ passed, item, back, by simp, ⟨kept, first⟩, ?_⟩
  rintro other listed ⟨keeps, second⟩
  rcases List.mem_append.mp listed with early | late
  · exact before other (List.mem_filter.mpr ⟨early, keeps⟩) second
  · exact none other late keeps

end Precedence

/-! ### Groups -/

section Groups
variable {α β κ : Type} [DecidableEq κ]

/-- First occurrences stand in the order in which they are met. -/
theorem pairwise_eraseDups (keys : List κ) :
    keys.eraseDups.Pairwise fun first second => Precedes keys (· = first) (· = second) := by
  induction keys using List.reverseRecOn with
  | nil => exact .nil
  | append_singleton keys key ih =>
    have before := ih.imp fun precedes => Precedes.append precedes [key]
    rw [eraseDups_concat]
    split
    · exact before
    · rename_i new
      refine List.pairwise_append.mpr ⟨before, List.pairwise_singleton _ _, ?_⟩
      intro first met second last
      obtain rfl := List.mem_singleton.mp last
      obtain ⟨earlier, later, rfl⟩ := List.append_of_mem (List.mem_eraseDups.mp met)
      refine ⟨earlier, first, later ++ [second], by simp, rfl, ?_⟩
      exact fun other listed same => new (same ▸ List.mem_append_left _ listed)

/-- So do groups, and no two have one key. -/
theorem pairwise_groupByKey (key : α → κ) (items : List α) :
    (groupByKey key items).Pairwise fun first second => first.1 ≠ second.1 ∧
      Precedes items (key · = first.1) (key · = second.1) := by
  rw [groupByKey, List.pairwise_map]
  refine (nodup_eraseDups _).and (pairwise_eraseDups _) |>.imp ?_
  rintro first second ⟨differ, earlier, item, later, split, rfl, before⟩
  obtain ⟨front, rest, rfl, rfl, shape⟩ := List.map_eq_append_iff.mp split
  obtain ⟨source, back, rfl, rfl, rfl⟩ := List.map_eq_cons_iff.mp shape
  exact ⟨differ, front, source, back, rfl, rfl, fun other early =>
    before (key other) (List.mem_map_of_mem early)⟩

/-- Changes the group of a key; if there is none yet, a new one is put at the end. -/
def adjust (key : κ) (change : List β → List β) : List (κ × List β) → List (κ × List β)
  | [] => [(key, change [])]
  | (other, group) :: rest =>
    if other = key then (other, change group) :: rest
    else (other, group) :: adjust key change rest

/-- Where there is a group of the key, it alone is changed. -/
theorem adjust_of_mem {keys : List κ} (once : keys.Nodup) (known : key ∈ keys)
    (change : List β → List β) (group : κ → List β) :
    adjust key change (keys.map fun k => (k, group k)) =
      keys.map fun k => (k, if k = key then change (group k) else group k) := by
  induction keys with
  | nil => cases known
  | cons first rest ih =>
    obtain ⟨absent, once⟩ := List.nodup_cons.mp once
    rw [List.map_cons, List.map_cons, adjust]
    by_cases same : first = key
    · subst same
      rw [if_pos rfl, if_pos rfl]
      congr 1
      refine List.map_congr_left fun k listed => ?_
      rw [if_neg (ne_of_mem_of_not_mem listed absent)]
    · rw [if_neg same, if_neg same, ih once ((List.mem_cons.mp known).resolve_left (Ne.symm same))]

theorem adjust_of_not_mem {groups : List (κ × List β)} (new : key ∉ groups.map Prod.fst)
    (change : List β → List β) : adjust key change groups = groups ++ [(key, change [])] := by
  induction groups with
  | nil => rfl
  | cons first rest ih =>
    rw [List.map_cons, List.mem_cons, not_or] at new
    rw [adjust, if_neg (Ne.symm new.1), ih new.2, List.cons_append]

/-- One more item is the last of its own group, and the other groups are without it. -/
theorem foldl_filter_concat (key : α → κ) (change : α → List β → List β) (items : List α) (item : α)
    (k : κ) : ((items ++ [item]).filter (key · = k)).foldl (fun made item => change item made) [] =
      if k = key item then
        change item ((items.filter (key · = k)).foldl (fun made item => change item made) [])
      else (items.filter (key · = k)).foldl (fun made item => change item made) [] := by
  by_cases same : key item = k
  · simp [same]
  · simp [same, Ne.symm same]

/-- The groups, with what their items make of them, key by key. -/
theorem map_groupByKey_foldl (key : α → κ) (change : α → List β → List β) (items : List α) :
    ((groupByKey key items).map fun group =>
      (group.1, group.2.foldl (fun made item => change item made) [])) =
      (items.map key).eraseDups.map fun k =>
        (k, (items.filter (key · = k)).foldl (fun made item => change item made) []) := by
  rw [groupByKey, List.map_map]
  rfl

/-- **Grouping is placing items one after the other.** Each item changes the group of its key; in
the end every group is what its own items have made of it. -/
theorem foldl_adjust (key : α → κ) (change : α → List β → List β) (items : List α) :
    items.foldl (fun groups item => adjust (key item) (change item) groups) [] =
      (groupByKey key items).map fun group =>
        (group.1, group.2.foldl (fun made item => change item made) []) := by
  induction items using List.reverseRecOn with
  | nil => rfl
  | append_singleton items item ih =>
    rw [List.foldl_append, List.foldl_cons, List.foldl_nil, ih, map_groupByKey_foldl,
      map_groupByKey_foldl, List.map_append, List.map_singleton, eraseDups_concat]
    simp only [foldl_filter_concat]
    by_cases known : key item ∈ items.map key
    · rw [if_pos known, adjust_of_mem (nodup_eraseDups _) (List.mem_eraseDups.mpr known)]
    · have empty : items.filter (key · = key item) = [] := by
        simpa [List.filter_eq_nil_iff] using known
      rw [if_neg known, adjust_of_not_mem (by simpa using known), List.map_append,
        List.map_singleton, if_pos rfl, empty]
      congr 1
      refine List.map_congr_left fun k listed => ?_
      rw [if_neg (ne_of_mem_of_not_mem (List.mem_eraseDups.mp listed) known)]

end Groups

/-! ### Batches of candidates -/

/-- Groups within groups, read as batches. -/
def ofGroups (groups : List (FunctionRef × List (String × List EntityRef))) : List Batch :=
  groups.flatMap fun (function, sharing) =>
    sharing.map fun (proposed, members) => ⟨function, proposed, members⟩

/-- Puts a candidate at the end of the group of its proposal, within that of its naming function. -/
def place (groups : List (FunctionRef × List (String × List EntityRef))) (candidate : Candidate) :
    List (FunctionRef × List (String × List EntityRef)) :=
  adjust candidate.function (adjust candidate.proposed (· ++ [candidate.entity])) groups

/-- The batches come about candidate by candidate. -/
theorem ofGroups_foldl_place (candidates : List Candidate) :
    ofGroups (candidates.foldl place []) = Batch.ofCandidates candidates := by
  have members (alike : List Candidate) :
      alike.foldl (fun made candidate => made ++ [candidate.entity]) [] = alike.map (·.entity) := by
    rw [List.foldl_append_eq_append, List.nil_append]
    exact List.map_eq_flatMap.symm
  have inner (sharing : List Candidate) :
      sharing.foldl (fun made candidate =>
        adjust candidate.proposed (· ++ [candidate.entity]) made) [] =
      (groupByKey (·.proposed) sharing).map fun alike =>
        (alike.1, alike.2.map (·.entity)) := by
    rw [foldl_adjust Candidate.proposed fun candidate made => made ++ [candidate.entity]]
    simp only [members]
  unfold place
  rw [foldl_adjust Candidate.function fun candidate =>
    adjust candidate.proposed (· ++ [candidate.entity])]
  simp only [ofGroups, Batch.ofCandidates, inner, List.flatMap_map, List.map_map]
  rfl

/-- How one batch comes to stand before another: the naming function of the first is met before
that of the second, or it is the same and the proposal of the first is met before. -/
inductive Leads (candidates : List Candidate) (first second : Batch) : Prop
  | function (differ : first.function ≠ second.function)
      (precedes : Precedes candidates (·.function = first.function)
        (·.function = second.function)) : Leads candidates first second
  | proposal (same : first.function = second.function) (differ : first.proposed ≠ second.proposed)
      (precedes : Precedes candidates
        (fun candidate => candidate.function = first.function ∧
          candidate.proposed = first.proposed)
        fun candidate => candidate.function = second.function ∧
          candidate.proposed = second.proposed) : Leads candidates first second

theorem pairwise_ofCandidates (candidates : List Candidate) :
    (Batch.ofCandidates candidates).Pairwise (Leads candidates) := by
  rw [Batch.ofCandidates, List.pairwise_flatMap]
  constructor
  · rintro ⟨function, sharing⟩ listed
    obtain rfl : sharing = candidates.filter (·.function = function) := (of_mem_groupByKey listed).1
    refine List.pairwise_map.mpr ((pairwise_groupByKey _ _).imp ?_)
    rintro first second ⟨differ, precedes⟩
    exact .proposal rfl differ (by simpa using precedes.of_filter)
  · refine (pairwise_groupByKey _ _).imp ?_
    rintro ⟨function, sharing⟩ ⟨other, others⟩ ⟨differ, precedes⟩ first inFirst second inSecond
    obtain ⟨group, -, rfl⟩ := List.mem_map.mp inFirst
    obtain ⟨alike, -, rfl⟩ := List.mem_map.mp inSecond
    exact .function differ precedes

/-- Batches of one naming function stand together: what stands between two of them was met neither
before the function nor after it. -/
theorem Leads.contiguous {candidates : List Candidate} {first middle last : Batch}
    (before : Leads candidates first middle) (after : Leads candidates middle last)
    (same : first.function = last.function) : middle.function = first.function := by
  cases before with
  | proposal same' => exact same'.symm
  | function differ precedes =>
    cases after with
    | proposal same' => exact same'.trans same.symm
    | function differs follows =>
      rw [← same] at follows
      refine absurd follows (precedes.asymm ?_)
      intro candidate _ here there
      exact differ (here.symm.trans there)

/-! ### The batches of ready members -/

/-- A member asks one naming function for one name. -/
theorem asks_unique {graph : Graph} {names : Names}
    (one : graph.Asks names member function proposed)
    (other : graph.Asks names member function' proposed') :
    function = function' ∧ proposed = proposed' := by
  obtain ⟨entity, found, asked, proposes⟩ := one
  obtain ⟨same, again, askedToo, proposesToo⟩ := other
  obtain rfl : entity = same := Option.some.inj (found.symm.trans again)
  exact ⟨Option.some.inj (asked.symm.trans askedToo),
    Except.ok.inj (proposes.symm.trans proposesToo)⟩

/-- Batches divide the ready members and keep their order. -/
structure Partitions (graph : Graph) (names : Names) (ready : List EntityRef)
    (batches : List Batch) : Prop extends graph.Divides names ready batches where
  once : (batches.flatMap (·.members)).Nodup
  ordered : ∀ batch ∈ batches, batch.members.Sublist ready
  /-- Who is named together asks the same function for the same name, and conversely. -/
  together : ∀ first ∈ ready, ∀ second ∈ ready,
    (∃ batch ∈ batches, first ∈ batch.members ∧ second ∈ batch.members) ↔
      ∃ function proposed, graph.Asks names first function proposed ∧
        graph.Asks names second function proposed
  distinct : (batches.map fun batch => (batch.function, batch.proposed)).Nodup
  contiguous : ∀ first middle last, [first, middle, last].Sublist batches →
    first.function = last.function → middle.function = first.function
  /-- Naming functions come in the order in which members first ask them. -/
  functions : ∀ first second, [first, second].Sublist batches →
    first.function ≠ second.function →
    Precedes ready (fun member => ∃ proposed, graph.Asks names member first.function proposed)
      fun member => ∃ proposed, graph.Asks names member second.function proposed
  /-- And so do the proposals that are made to one function. -/
  proposals : ∀ first second, [first, second].Sublist batches →
    first.function = second.function →
    Precedes ready (graph.Asks names · first.function first.proposed)
      (graph.Asks names · second.function second.proposed)

section Candidates
variable {graph : Graph} {names : Names} {candidates : List Candidate}
  (asks : ∀ candidate ∈ candidates,
    graph.Asks names candidate.entity candidate.function candidate.proposed)
include asks

/-- The naming function of a candidate is the one that its entity asks. -/
theorem precedes_function (precedes : Precedes candidates (·.function = first)
    (·.function = second)) :
    Precedes (candidates.map (·.entity))
      (fun member => ∃ proposed, graph.Asks names member first proposed)
      fun member => ∃ proposed, graph.Asks names member second proposed := by
  apply precedes.map
  · rintro candidate listed rfl
    exact ⟨candidate.proposed, asks candidate listed⟩
  · rintro candidate listed ⟨proposed, asked⟩
    exact (asks_unique (asks candidate listed) asked).1

theorem precedes_proposal (precedes : Precedes candidates
      (fun candidate => candidate.function = function ∧ candidate.proposed = first)
      fun candidate => candidate.function = other ∧ candidate.proposed = second) :
    Precedes (candidates.map (·.entity)) (graph.Asks names · function first)
      (graph.Asks names · other second) := by
  apply precedes.map
  · rintro candidate listed ⟨rfl, rfl⟩
    exact asks candidate listed
  · exact fun candidate listed asked => asks_unique (asks candidate listed) asked

end Candidates

/-- No two batches are for one proposal to one function. -/
theorem nodup_requests (candidates : List Candidate) :
    ((Batch.ofCandidates candidates).map fun batch => (batch.function, batch.proposed)).Nodup := by
  refine List.pairwise_map.mpr ((pairwise_ofCandidates candidates).imp ?_)
  intro first second leads same
  obtain ⟨function, proposed⟩ := Prod.mk.inj same
  cases leads with
  | function differ => exact differ function
  | proposal _ differ => exact differ proposed

/-- Two members that ask the same stand in one batch, for there is only one for what they ask. -/
theorem together_iff {graph : Graph} {names : Names} {ready : List EntityRef}
    (divides : graph.Divides names ready batches)
    (distinct : (batches.map fun batch => (batch.function, batch.proposed)).Nodup)
    (inFirst : first ∈ ready) (inSecond : second ∈ ready) :
    (∃ batch ∈ batches, first ∈ batch.members ∧ second ∈ batch.members) ↔
      ∃ function proposed, graph.Asks names first function proposed ∧
        graph.Asks names second function proposed := by
  constructor
  · rintro ⟨batch, listed, one, other⟩
    exact ⟨batch.function, batch.proposed, divides.asks batch listed first one,
      divides.asks batch listed second other⟩
  · rintro ⟨function, proposed, one, other⟩
    obtain ⟨batch, listed, inside⟩ := List.mem_flatMap.mp (divides.perm.symm.subset inFirst)
    obtain ⟨again, listedToo, insideToo⟩ := List.mem_flatMap.mp (divides.perm.symm.subset inSecond)
    obtain ⟨rfl, rfl⟩ := asks_unique one (divides.asks batch listed first inside)
    obtain ⟨function, proposed⟩ := asks_unique (divides.asks again listedToo second insideToo) other
    obtain rfl : again = batch :=
      List.inj_on_of_nodup_map distinct listedToo listed (Prod.ext function proposed)
    exact ⟨again, listed, inside, insideToo⟩

/-- **Batching is a partition that keeps the order.** Members that can propose a name, each listed
once, are always batched, and the batches are those that come about when they are placed one after
the other. Each member is in one batch, with exactly those that ask the same function for the same
name, and in the order given. The batches of one function stand together; functions, and the
proposals made to one, come in the order in which the members bring them up. -/
theorem batching_is_an_ordered_partition (graph : Graph) (names : Names) (ready : List EntityRef)
    (once : ready.Nodup) (can : ∀ member ∈ ready, graph.CanPropose names member) :
    ∃ candidates batches, graph.candidates names ready = .ok candidates ∧
      graph.batches names ready = .ok batches ∧
      batches = ofGroups (candidates.foldl place []) ∧
      Partitions graph names ready batches := by
  obtain ⟨batches, batched, divides⟩ := Graph.batches_of_canPropose can
  obtain ⟨candidates, ran, rfl, asks⟩ := Graph.candidates_of_canPropose can
  obtain rfl : batches = Batch.ofCandidates candidates := by
    simpa [Graph.batches, ran, Except.map, eq_comm] using batched
  have leads {first second : Batch}
      (ordered : [first, second].Sublist (Batch.ofCandidates candidates)) :
      Leads candidates first second :=
    List.pairwise_iff_forall_sublist.mp (pairwise_ofCandidates candidates) ordered
  refine ⟨candidates, _, ran, batched, (ofGroups_foldl_place candidates).symm, ?_⟩
  exact
    { divides with
      once := divides.perm.nodup_iff.mpr once
      ordered := Graph.batches_ordered can batched
      together := fun first inFirst second inSecond =>
        together_iff divides (nodup_requests candidates) inFirst inSecond
      distinct := nodup_requests candidates
      contiguous := by
        intro first middle last ordered same
        have before : [first, middle].Sublist [first, middle, last] := by simp
        have after : [middle, last].Sublist [first, middle, last] := by simp
        exact (leads (before.trans ordered)).contiguous (leads (after.trans ordered)) same
      functions := by
        intro first second ordered differ
        cases leads ordered with
        | function _ precedes => exact precedes_function asks precedes
        | proposal same => exact absurd same differ
      proposals := by
        intro first second ordered same
        cases leads ordered with
        | function differ => exact absurd same differ
        | proposal _ _ precedes => exact precedes_proposal asks precedes }

/-- Members that alternate between two naming functions. -/
def alternating : List BuildStep := [
  .function (Counting.names '_'),
  .function (Counting.names 'x'),
  .space { name := "types" },
  .simple ⟨0⟩ ⟨0⟩ "Foo",
  .simple ⟨0⟩ ⟨1⟩ "Foo",
  .simple ⟨0⟩ ⟨0⟩ "Bar",
  .simple ⟨0⟩ ⟨1⟩ "Foo",
  .simple ⟨0⟩ ⟨0⟩ "Foo"]

theorem alternating_members_stand_together : ∃ batches,
    (Graph.ofSteps alternating).batches .empty [⟨0⟩, ⟨1⟩, ⟨2⟩, ⟨3⟩, ⟨4⟩] = .ok batches ∧
      batches.map (·.members) = [[⟨0⟩, ⟨4⟩], [⟨2⟩], [⟨1⟩, ⟨3⟩]] ∧
      Partitions (Graph.ofSteps alternating) .empty [⟨0⟩, ⟨1⟩, ⟨2⟩, ⟨3⟩, ⟨4⟩] batches := by
  have can : ∀ member ∈ [⟨0⟩, ⟨1⟩, ⟨2⟩, ⟨3⟩, ⟨4⟩],
      (Graph.ofSteps alternating).CanPropose .empty member := by
    simp only [List.forall_mem_cons, List.not_mem_nil, false_implies, implies_true, and_true]
    exact ⟨⟨_, rfl, rfl, rfl⟩, ⟨_, rfl, rfl, rfl⟩, ⟨_, rfl, rfl, rfl⟩, ⟨_, rfl, rfl, rfl⟩,
      ⟨_, rfl, rfl, rfl⟩⟩
  obtain ⟨candidates, batches, -, batched, -, partitions⟩ :=
    batching_is_an_ordered_partition (Graph.ofSteps alternating) .empty
      [⟨0⟩, ⟨1⟩, ⟨2⟩, ⟨3⟩, ⟨4⟩] (by decide) can
  refine ⟨batches, batched, ?_, partitions⟩
  obtain ⟨shown, ran, members⟩ := exists_ok_of_any
    ((Graph.ofSteps alternating).batches .empty [⟨0⟩, ⟨1⟩, ⟨2⟩, ⟨3⟩, ⟨4⟩])
    (fun batches => batches.map (·.members) == [[⟨0⟩, ⟨4⟩], [⟨2⟩], [⟨1⟩, ⟨3⟩]])
    (by decide +kernel)
  obtain rfl : batches = shown := Except.ok.inj (batched.symm.trans ran)
  exact beq_iff_eq.mp members

end NameAssignment.Batching
