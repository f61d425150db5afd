import Mathlib.Data.List.Forall2
import NameAssignment.Report
import NameAssignment.Proofs.Faithfulness
import NameAssignment.Proofs.Rounds

/-! A report accounts for everything and explains every stall. It looks for reasons on its own,
after the run; but the run ended because no namespace qualified, so whoever is left waits for a
dependency without a name or for a namespace with such a member. All of a manifest is below its
roots, so those are left as well and have rows of their own. -/
namespace NameAssignment.Accounting

/-- The handles of all entities. -/
def entityHandles (graph : Graph) : List EntityRef :=
  (List.range graph.entities.size).map Handle.mk

theorem mem_entityHandles {graph : Graph} {handle : EntityRef} :
    handle ∈ entityHandles graph ↔ (graph.entity? handle).isSome = true := by
  rw [Graph.entity?_isSome_iff, entityHandles, Handle.mem_map_range]

theorem nodup_entityHandles (graph : Graph) : (entityHandles graph).Nodup :=
  Handle.nodup_map_range _

/-! ### What is left after a run -/

section Left
variable {graph : Graph} {plan : Plan} {forest : List NamespaceRef} {fixed final : NamingState}
  {resolution : Resolution}

/-- Only entities of the graph are named. -/
theorem known_of_named (linked : graph.Linked)
    (course : graph.Course roots forest fixed final resolution)
    (named : resolution.names.contains handle = true) : (graph.entity? handle).isSome = true := by
  rw [course.names] at named
  exact linked.known_of_placed ((course.orderly linked).placed named)

variable (fulfils : graph.Fulfils plan)
  (course : graph.Course plan.roots forest fixed final resolution)
include fulfils course

/-- Left are the entities without a name. -/
theorem mem_unresolved : handle ∈ resolution.unresolved ↔
    (graph.entity? handle).isSome = true ∧ resolution.names.contains handle = false := by
  rw [course.unresolved, course.names, Graph.unnamed, List.mem_filter, Bool.not_eq_true']
  refine and_congr_left fun _ => ⟨fun placed => ?_, fun there => ?_⟩
  · exact fulfils.follows.linked.known_of_placed placed
  · obtain ⟨entity, found⟩ := Option.isSome_iff_exists.mp there
    exact fulfils.placed course.flattened found

/-- Whoever is left is not fixed. -/
theorem source_of_unnamed (found : graph.entity? handle = some entity)
    (unnamed : resolution.names.contains handle = false) (name : String) :
    entity.source ≠ .fixed name := by
  intro source
  have held := (course.orderly fulfils.follows.linked).literal
    (fulfils.placed course.flattened found) found source
  rw [course.names, Table.contains_eq_false_iff, held] at unnamed
  cases unnamed

/-- **Whoever is left waits.** A dependency of it has no name, or another namespace that its own
forbids is not fully named. -/
theorem waits_of_unnamed (found : graph.entity? handle = some entity)
    (unnamed : resolution.names.contains handle = false) :
    (∃ dependency ∈ entity.dependencies, resolution.names.contains dependency = false) ∨
      ∃ other ∈ graph.forbidden entity.home, other ≠ entity.home ∧
        graph.isFullyNamed resolution.names other = false := by
  rw [course.names] at unnamed ⊢
  -- The run is stuck, so the namespace of the entity does not qualify: either it waits for one that
  -- it forbids, or none of its members is ready.
  cases eligible : graph.isEligible final.names entity.home with
  | false =>
    right
    simpa [Graph.isEligible, and_assoc] using eligible
  | true =>
    left
    have listed := fulfils.covered course.flattened entity.home (fulfils.valid.home found)
    have none := Graph.readyMembers_eq_nil course.stuck listed eligible
    have unready : entity.isReady final.names = false := by
      rw [Bool.eq_false_iff]
      intro ready
      have member := Graph.mem_readyMembers.mpr
        ⟨fulfils.follows.housed found, unnamed, entity, found, ready⟩
      rw [none] at member
      cases member
    simpa [Entity.isReady] using unready

/-- Every entity has a name or is left, and none is both. -/
theorem named_or_unresolved_perm :
    (resolution.names.entries.map Prod.fst ++ resolution.unresolved).Perm
      (entityHandles graph) := by
  have linked := fulfils.follows.linked
  have leftOnce : resolution.unresolved.Nodup := by
    rw [course.unresolved]
    exact (linked.nodup_flatMap_members (Graph.nodup_flatten course.flattened)).filter _
  have apart : resolution.names.entries.map Prod.fst |>.Disjoint resolution.unresolved := by
    intro handle held left
    have unnamed := ((mem_unresolved fulfils course).mp left).2
    rw [(Table.mem_keys_iff _ _).mp held] at unnamed
    cases unnamed
  apply (List.perm_ext_iff_of_nodup (resolution.names.nodup_keys.append leftOnce apart)
    (nodup_entityHandles _)).mpr
  intro handle
  rw [List.mem_append, Table.mem_keys_iff, mem_unresolved fulfils course, mem_entityHandles]
  cases held : resolution.names.contains handle with
  | true => simp [known_of_named linked course held]
  | false => simp

end Left

/-! ### What rows show -/

/-- What a row calls each kind of entity. -/
inductive Called : NameSource → String → Prop
  | fixed (name : String) : Called (.fixed name) "fixed"
  | simple (function : FunctionRef) (proposed : String) :
      Called (.simple function proposed) "simple"
  | dependent (function : FunctionRef) (dependencies : List EntityRef)
      (combine : List String → String) :
      Called (.dependent function dependencies combine) "dependent"

theorem called_kind (source : NameSource) : Called source source.kind := by
  cases source with
  | fixed name => exact .fixed name
  | simple function proposed => exact .simple function proposed
  | dependent function dependencies combine => exact .dependent function dependencies combine

/-- How an assignment row shows an entity and its name. -/
inductive Records (built : BuiltManifest) (names : Names) (named : EntityRef × String)
    (row : AssignedRow) : Prop
  | intro (held : names.get? named.1 = some named.2)
      (found : built.graph.entity? named.1 = some entity)
      (housed : built.graph.namespace? entity.home = some space)
      (home : row.home = space.name) (label : row.entity = built.label named.1)
      (kind : Called entity.source row.kind) (name : row.name = named.2)

/-- How a row shows an entity that is left, and what it waits for. -/
inductive Explains (built : BuiltManifest) (names : Names) (handle : EntityRef)
    (row : UnresolvedRow) : Prop
  | intro (found : built.graph.entity? handle = some entity)
      (housed : built.graph.namespace? entity.home = some space)
      (home : row.home = space.name) (label : row.entity = built.label handle)
      (waiting : ∀ text, text ∈ row.waitingOn ↔ ∃ dependency ∈ entity.dependencies,
        names.contains dependency = false ∧ built.label dependency = text)
      (blocked : ∀ name, name ∈ row.blockedBy ↔ ∃ other ∈ built.graph.forbidden entity.home,
        other ≠ entity.home ∧ built.graph.isFullyNamed names other = false ∧
          built.graph.namespaceName? other = some name)

/-- If every item has a row, the rows stand in the order of the items. -/
theorem forall₂_filterMap {f : α → Option β} {Fits : α → β → Prop} {items : List α}
    (each : ∀ item ∈ items, ∃ row, f item = some row ∧ Fits item row) :
    List.Forall₂ Fits items (items.filterMap f) := by
  induction items with
  | nil => exact .nil
  | cons item rest ih =>
    obtain ⟨⟨row, made, fits⟩, later⟩ := List.forall_mem_cons.mp each
    rw [List.filterMap_cons_some made]
    exact .cons fits (ih later)

section Rows
variable {built : BuiltManifest} {names : Names}

theorem assignedRow_records (valid : built.graph.Valid)
    (there : (built.graph.entity? handle).isSome = true) (held : names.get? handle = some name) :
    ∃ row, Report.assignedRow built handle name = some row ∧
      Records built names (handle, name) row := by
  obtain ⟨entity, found⟩ := Option.isSome_iff_exists.mp there
  obtain ⟨space, housed⟩ := Option.isSome_iff_exists.mp (valid.home found)
  refine ⟨⟨space.name, built.label handle, entity.source.kind, name⟩, ?_,
    .intro held found housed rfl rfl (called_kind entity.source) rfl⟩
  simp [Report.assignedRow, Graph.namespaceName?, found, housed]

theorem unresolvedRow_explains (valid : built.graph.Valid)
    (there : (built.graph.entity? handle).isSome = true) :
    ∃ row, Report.unresolvedRow built names handle = some row ∧
      Explains built names handle row := by
  obtain ⟨entity, found⟩ := Option.isSome_iff_exists.mp there
  obtain ⟨space, housed⟩ := Option.isSome_iff_exists.mp (valid.home found)
  refine ⟨{
    home := space.name
    entity := built.label handle
    waitingOn := (Report.pending entity names).map built.label
    blockedBy := (Report.blocking built.graph entity.home names).filterMap
      built.graph.namespaceName? }, ?_, .intro found housed rfl rfl ?_ ?_⟩
  · simp [Report.unresolvedRow, Graph.namespaceName?, found, housed]
  · intro text
    simp [Report.pending, and_assoc]
  · intro name
    simp [Report.blocking, and_assoc]

/-- A row lists a label once if no other entity that it can list has that label. -/
theorem nodup_waitingOn (made : Report.unresolvedRow built names handle = some row)
    (apart : ∀ entity, built.graph.entity? handle = some entity →
      ∀ first ∈ entity.dependencies, ∀ second ∈ entity.dependencies,
        names.contains first = false → names.contains second = false →
        built.label first = built.label second → first = second) : row.waitingOn.Nodup := by
  obtain ⟨entity, found, made⟩ := Option.bind_eq_some_iff.mp made
  obtain ⟨home, -, made⟩ := Option.bind_eq_some_iff.mp made
  cases made
  apply List.Nodup.map_on _ (nodup_eraseDups _)
  intro first pending second waiting same
  simp only [List.mem_eraseDups, List.mem_filter, Bool.not_eq_true'] at pending waiting
  exact apart entity found first pending.1 second waiting.1 pending.2 waiting.2 same

end Rows

/-! ### Labels and names of a manifest -/

section Labels
variable {manifest : Manifest} {filler : Char} {built : BuiltManifest}

/-- An entity that is not fixed is a member, and its label is its id. -/
theorem ids_label (depicts : Faithfulness.Depicts manifest filler built)
    (found : built.graph.entity? handle = some entity)
    (made : ∀ name, entity.source ≠ .fixed name) :
    built.ids.get? (built.label handle) = some handle := by
  rw [Graph.entity?, ← Array.getElem?_toList, depicts.entities, List.getElem?_map] at found
  obtain ⟨⟨home, text | member⟩, listed, rfl⟩ := Option.map_eq_some_iff.mp found
  · exact absurd rfl (made text)
  · rw [depicts.label handle _ listed]
    exact (depicts.lookup _ _).mpr ⟨home, member, listed, rfl⟩

/-- A namespace has the name that is declared at its position. -/
theorem spaceNames_of_namespaceName? (depicts : Faithfulness.Depicts manifest filler built)
    (named : built.graph.namespaceName? handle = some name) :
    manifest.spaceNames[handle.index]? = some name := by
  obtain ⟨space, found, rfl⟩ := Option.map_eq_some_iff.mp named
  have inside := Graph.namespace?_isSome_iff.mp (Option.isSome_of_eq_some found)
  rw [depicts.count] at inside
  have declared := List.getElem?_eq_getElem inside
  obtain ⟨same, again, displays⟩ := depicts.spaces handle _ declared
  obtain rfl : space = same := Option.some.inj (found.symm.trans again)
  rw [Manifest.spaceNames, List.getElem?_map, declared, Option.map_some, displays.name]

/-- No two namespaces have the same name. -/
theorem eq_of_namespaceName? (depicts : Faithfulness.Depicts manifest filler built)
    (formed : manifest.WellFormed) (first : built.graph.namespaceName? handle = some name)
    (second : built.graph.namespaceName? other = some name) : handle = other := by
  have here := spaceNames_of_namespaceName? depicts first
  have there := spaceNames_of_namespaceName? depicts second
  obtain ⟨inside, -⟩ := List.getElem?_eq_some_iff.mp here
  exact Handle.ext_index
    ((List.getElem?_inj inside formed.spacesOnce).mp (here.trans there.symm))

end Labels

/-! ### The report -/

/-- What makes a report account for everything and explain what is left. -/
structure Accounts (built : BuiltManifest) (resolution : Resolution) (report : Report) : Prop where
  /-- The assignment rows are those of the named entities, in handle order. -/
  assigned : List.Forall₂ (Records built resolution.names) resolution.names.entries
    report.assignments
  ordered : resolution.names.entries.Pairwise fun earlier later =>
    earlier.1.index < later.1.index
  left : List.Forall₂ (Explains built resolution.names) resolution.unresolved report.unresolved
  /-- Every entity of the graph has one row. -/
  covered : (resolution.names.entries.map Prod.fst ++ resolution.unresolved).Perm
    (entityHandles built.graph)
  complete : report.isComplete = true ↔ report.unresolved = []
  explained : ∀ row ∈ report.unresolved, row.waitingOn ≠ [] ∨ row.blockedBy ≠ []
  waiting : ∀ row ∈ report.unresolved, row.waitingOn.Nodup ∧
    ∀ text ∈ row.waitingOn, ∃ other ∈ report.unresolved, other.entity = text
  blocked : ∀ row ∈ report.unresolved, ∀ name ∈ row.blockedBy,
    name ≠ row.home ∧ ∃ other ∈ report.unresolved, other.home = name

section Reasons
variable {built : BuiltManifest} {plan : Plan} {forest : List NamespaceRef}
  {fixed final : NamingState} {resolution : Resolution}

variable (fulfils : built.graph.Fulfils plan)
  (course : built.graph.Course plan.roots forest fixed final resolution)
include fulfils course

theorem rows_explain : List.Forall₂ (Explains built resolution.names) resolution.unresolved
    (Report.ofResolution built resolution).unresolved := by
  apply forall₂_filterMap
  intro handle left
  exact unresolvedRow_explains fulfils.valid ((mem_unresolved fulfils course).mp left).1

/-- Every entity without a name has a row. -/
theorem exists_row (there : (built.graph.entity? handle).isSome = true)
    (unnamed : resolution.names.contains handle = false) :
    ∃ row ∈ (Report.ofResolution built resolution).unresolved,
      Explains built resolution.names handle row := by
  obtain ⟨row, made, explains⟩ := unresolvedRow_explains fulfils.valid there
  have left := (mem_unresolved fulfils course).mpr ⟨there, unnamed⟩
  exact ⟨row, List.mem_filterMap.mpr ⟨handle, left, made⟩, explains⟩

/-- And every row is that of such an entity. -/
theorem of_mem_rows (listed : row ∈ (Report.ofResolution built resolution).unresolved) :
    ∃ handle, Report.unresolvedRow built resolution.names handle = some row ∧
      resolution.names.contains handle = false ∧ Explains built resolution.names handle row := by
  obtain ⟨handle, left, made⟩ := List.mem_filterMap.mp listed
  obtain ⟨there, unnamed⟩ := (mem_unresolved fulfils course).mp left
  obtain ⟨same, again, explains⟩ := unresolvedRow_explains fulfils.valid there
  obtain rfl : row = same := Option.some.inj (made.symm.trans again)
  exact ⟨handle, made, unnamed, explains⟩

/-- No row is without a reason. -/
theorem row_explained (listed : row ∈ (Report.ofResolution built resolution).unresolved) :
    row.waitingOn ≠ [] ∨ row.blockedBy ≠ [] := by
  obtain ⟨handle, -, unnamed, found, housed, -, -, waiting, blocked⟩ :=
    of_mem_rows fulfils course listed
  rcases waits_of_unnamed fulfils course found unnamed with
    ⟨dependency, needed, without⟩ | ⟨other, avoided, differ, unfinished⟩
  · left
    exact List.ne_nil_of_mem ((waiting _).mpr ⟨dependency, needed, without, rfl⟩)
  · right
    obtain ⟨space, there⟩ := Option.isSome_iff_exists.mp (fulfils.valid.known_of_forbidden avoided)
    have named : built.graph.namespaceName? other = some space.name := by
      rw [Graph.namespaceName?, there, Option.map_some]
    exact List.ne_nil_of_mem ((blocked _).mpr ⟨other, avoided, differ, unfinished, named⟩)

/-- What a row waits for has a row. -/
theorem row_of_waitingOn (listed : row ∈ (Report.ofResolution built resolution).unresolved)
    (awaited : text ∈ row.waitingOn) :
    ∃ other ∈ (Report.ofResolution built resolution).unresolved, other.entity = text := by
  obtain ⟨handle, -, -, found, -, -, -, waiting, -⟩ := of_mem_rows fulfils course listed
  obtain ⟨dependency, needed, without, rfl⟩ := (waiting text).mp awaited
  obtain ⟨other, there, -, -, -, label, -, -⟩ :=
    exists_row fulfils course (fulfils.valid.dependency found _ needed) without
  exact ⟨other, there, label⟩

/-- A row names each entity that it waits for once. -/
theorem waitingOn_once {manifest : Manifest} {filler : Char}
    (depicts : Faithfulness.Depicts manifest filler built)
    (listed : row ∈ (Report.ofResolution built resolution).unresolved) : row.waitingOn.Nodup := by
  have read {member : EntityRef} (there : (built.graph.entity? member).isSome = true)
      (unnamed : resolution.names.contains member = false) :
      built.ids.get? (built.label member) = some member := by
    obtain ⟨record, found⟩ := Option.isSome_iff_exists.mp there
    exact ids_label depicts found (source_of_unnamed fulfils course found unnamed)
  obtain ⟨handle, made, -⟩ := of_mem_rows fulfils course listed
  apply nodup_waitingOn made
  intro entity found first needed second awaited without unnamed same
  have one := read (fulfils.valid.dependency found first needed) without
  rw [same, read (fulfils.valid.dependency found second awaited) unnamed] at one
  exact (Option.some.inj one).symm

/-- Whatever blocks a row is another namespace, and has a row. -/
theorem row_of_blockedBy {manifest : Manifest} {filler : Char}
    (depicts : Faithfulness.Depicts manifest filler built) (formed : manifest.WellFormed)
    (listed : row ∈ (Report.ofResolution built resolution).unresolved)
    (named : name ∈ row.blockedBy) : name ≠ row.home ∧
      ∃ other ∈ (Report.ofResolution built resolution).unresolved, other.home = name := by
  obtain ⟨handle, -, -, @⟨entity, space, found, housed, home, -, -, blocked⟩⟩ :=
    of_mem_rows fulfils course listed
  obtain ⟨avoided, -, differ, unfinished, called⟩ := (blocked name).mp named
  constructor
  · rintro rfl
    have own : built.graph.namespaceName? entity.home = some row.home := by
      rw [Graph.namespaceName?, housed, Option.map_some, home]
    exact differ (eq_of_namespaceName? depicts formed called own)
  · obtain ⟨member, inside, without⟩ := List.all_eq_false.mp unfinished
    obtain ⟨rival, present, rfl⟩ := fulfils.follows.linked.housed inside
    obtain ⟨other, there, again, lodged, shown, -⟩ := exists_row fulfils course
      (Option.isSome_of_eq_some present) (Bool.eq_false_iff.mpr without)
    obtain rfl : rival = _ := Option.some.inj (present.symm.trans again)
    rw [Graph.namespaceName?, lodged, Option.map_some, Option.some.injEq] at called
    exact ⟨other, there, shown.trans called⟩

end Reasons

/-- **A report accounts for everything and explains every stall.** Whatever the manifest and the
mode, a resolution that succeeds gives every entity one row, with its name or with a reason why it
has none; and every reason leads to another row. -/
theorem report_accounts_for_everything (manifest : Manifest) (filler : Char)
    (built : BuiltManifest) (ran : manifest.build filler = .ok built) (guarded : Bool)
    (resolution : Resolution) (resolved : (built.resolve guarded).result = .ok resolution) :
    Accounts built resolution (Report.ofResolution built resolution) := by
  obtain ⟨fulfils, roots⟩ := Manifest.build_fulfils ran
  have depicts := Faithfulness.depicts_of_build ran
  have formed := (Manifest.build_ok ran).1
  have linked := fulfils.follows.linked
  rw [BuiltManifest.resolve, roots] at resolved
  obtain ⟨forest, fixed, final, course⟩ := Graph.resolve_course linked resolved
  have rows := rows_explain fulfils course
  exact {
    assigned := by
      apply forall₂_filterMap
      rintro ⟨handle, name⟩ listed
      have held := (Table.mem_entries_iff _ _ _).mp listed
      have named := (Table.contains_eq_true_iff _ _).mpr ⟨name, held⟩
      exact assignedRow_records fulfils.valid (known_of_named linked course named) held
    ordered := resolution.names.entries_increasing
    left := rows
    covered := named_or_unresolved_perm fulfils course
    complete := by
      rw [← List.length_eq_zero_iff, ← rows.length_eq, List.length_eq_zero_iff]
      exact List.isEmpty_iff
    explained := fun row listed => row_explained fulfils course listed
    waiting := fun row listed => ⟨waitingOn_once fulfils course depicts listed,
      fun text => row_of_waitingOn fulfils course listed⟩
    blocked := fun row listed name => row_of_blockedBy fulfils course depicts formed listed }

/-- Two members that wait for each other, and a namespace that waits for theirs; and beside the two
a word, a type and its list, which wait for nobody. -/
def stalled : Manifest where
  functions := .empty
  namespaces := [
    { name := "circle", keywords := ["self"], members := [
      ⟨"a", .dependent ["b", "b"] "\x7b0\x7d\x7b1\x7d" none⟩,
      ⟨"b", .dependent ["a"] "\x7b0\x7d" none⟩,
      ⟨"type", .simple "Foo" none⟩,
      ⟨"list", .dependent ["type"] "\x7b0\x7dList" none⟩] },
    { name := "outside", forbidden := ["circle", "outside"],
      members := [⟨"free", .simple "Free" none⟩] }]

def stalledReport : Report where
  isComplete := false
  rounds := 2
  assignments := [⟨"circle", "self", "fixed", "self"⟩, ⟨"circle", "type", "simple", "Foo"⟩,
    ⟨"circle", "list", "dependent", "FooList"⟩]
  unresolved := [⟨"circle", "a", ["b"], []⟩, ⟨"circle", "b", ["a"], []⟩,
    ⟨"outside", "free", [], ["circle"]⟩]

/-- One entity of each kind is named, and everybody else has a reason. -/
theorem stall_is_explained : ∃ built, stalled.build '_' = .ok built ∧
    ∃ resolution, (built.resolve true).result = .ok resolution ∧
      Accounts built resolution stalledReport := by
  obtain ⟨built, ran, shown⟩ := exists_ok_of_any (stalled.build '_')
    (fun built => (built.resolve true).result.toOption.any fun resolution =>
      Report.ofResolution built resolution = stalledReport) (by decide +kernel)
  obtain ⟨resolution, resolved, same⟩ := exists_ok_of_any _ _ shown
  have accounts :=
    report_accounts_for_everything stalled '_' built ran true resolution resolved
  rw [of_decide_eq_true same] at accounts
  exact ⟨built, ran, resolution, resolved, accounts⟩

end NameAssignment.Accounting
