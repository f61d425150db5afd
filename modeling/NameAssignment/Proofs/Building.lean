import NameAssignment.Proofs.Planning
import NameAssignment.Proofs.Showing

/-! What is built from a manifest shows all of it. However far building has come, the graph shows
the part that has been read; so the handle that was foreseen for a member is the one it gets,
nothing but a fault of the manifest can stop the building, and the graph fulfils the plan that the
manifest makes. -/
namespace NameAssignment.Manifest

variable {manifest : Manifest} {filler : Char} {directory : Directory}
variable {begun : List NamespaceEntry} {added : List (NamespaceRef × Declaration)}
variable {graph : Graph} {labels : Table .entities String}

/-! ### Building shows more and more -/

theorem memberSlots_eq : manifest.memberSlots =
    (population manifest.namespaces.zipIdx).map (·.2.id?) := by
  have spaces : manifest.namespaces = manifest.namespaces.zipIdx.map Prod.fst :=
    (List.zipIdx_map_fst 0 _).symm
  rw [memberSlots, spaces, List.flatMap_map, population, List.map_flatMap]
  simp [Function.comp_def]

theorem mem_members_of_population
    (listed : (home, .member member) ∈ population manifest.namespaces.zipIdx) :
    member ∈ manifest.members := by
  obtain ⟨⟨entry, index⟩, there, inside⟩ := List.mem_flatMap.mp listed
  have here : member ∈ entry.members ∧ (⟨index⟩ : NamespaceRef) = home := by
    simpa [NamespaceEntry.declarations] using inside
  exact List.mem_flatMap.mpr ⟨entry, List.fst_mem_of_mem_zipIdx there, here.1⟩

/-- The handle that was foreseen for a member is the one it gets. -/
theorem Shows.foreseen (shows : manifest.Shows filler begun added (graph, labels))
    (reads : directory.Reads manifest filler)
    (whole : population manifest.namespaces.zipIdx = added ++ (home, .member member) :: later) :
    directory.members.get? member.id = some graph.nextEntity := by
  apply (reads.members _ _).mpr
  rw [memberSlots_eq, whole, shows.nextEntity]
  simp [Declaration.id?]

/-- While a namespace is filled: of its members some have been added and the rest are to come. -/
def Filling (manifest : Manifest) (filler : Char) (begun : List NamespaceEntry)
    (home : NamespaceRef) (later : List (NamespaceRef × Declaration)) (rest : List MemberEntry)
    (state : Graph × Table .entities String) : Prop :=
  home.index < begun.length ∧ ∃ added, population manifest.namespaces.zipIdx =
      added ++ rest.map (fun member => (home, .member member)) ++ later ∧
    manifest.Shows filler begun added state

theorem Filling.next (reads : directory.Reads manifest filler)
    {before after : Graph × Table .entities String}
    (filling : manifest.Filling filler begun home later (member :: rest) before)
    (ran : addMember directory home before member = .ok after) :
    manifest.Filling filler begun home later rest after := by
  obtain ⟨there, added, whole, shows⟩ := filling
  obtain ⟨entity, made, ran⟩ := except_bind_ok ran
  obtain ⟨-, rfl⟩ := entity_reads reads made
  split at ran
  · cases ran
  · cases ran
    exact ⟨there, added ++ [(home, .member member)], by simp [whole], shows.addEntity there⟩

/-- Between two namespaces: some have been built with all that they declare. -/
def Building (manifest : Manifest) (filler : Char) (rest : List (NamespaceEntry × Nat))
    (state : Graph × Table .entities String) : Prop :=
  ∃ done, manifest.namespaces.zipIdx = done ++ rest ∧
    manifest.Shows filler (done.map Prod.fst) (population done) state

theorem population_append (first second : List (NamespaceEntry × Nat)) :
    population (first ++ second) = population first ++ population second :=
  List.flatMap_append

theorem index_of_split (split : manifest.namespaces.zipIdx = done ++ (entry, index) :: rest) :
    index = done.length ∧ manifest.namespaces[index]? = some entry := by
  have found : manifest.namespaces.zipIdx[done.length]? = some (entry, index) := by simp [split]
  rw [List.getElem?_zipIdx] at found
  obtain ⟨same, there, last⟩ := Option.map_eq_some_iff.mp found
  cases last
  exact ⟨Nat.zero_add _, by rwa [Nat.zero_add]⟩

/-- A namespace is begun with its reserved words, and its members are to come. -/
theorem Filling.start (reads : directory.Reads manifest filler)
    (split : manifest.namespaces.zipIdx = done ++ (entry, index) :: rest)
    (shows : manifest.Shows filler (done.map Prod.fst) (population done) (graph, labels))
    (asked : directory.request entry index = .ok request) :
    manifest.Filling filler (done.map Prod.fst ++ [entry]) graph.nextNamespace (population rest)
      entry.members (entry.keywords.foldl (·.addFixed graph.nextNamespace ·)
        (graph.addNamespace request), labels) := by
  obtain ⟨placed, rfl⟩ := request_reads reads asked
  obtain ⟨rfl, found⟩ := index_of_split split
  have home : graph.nextNamespace = ⟨done.length⟩ := by
    rw [Graph.nextNamespace, shows.count, List.length_map]
  have earlier : ∀ parent ∈ entry.parent,
      (manifest.spaceRef parent).index < (done.map Prod.fst).length := by
    intro parent given
    have before := placed.parent parent given
    have declared : parent ∈ manifest.spaceNames :=
      List.map_subset _ (List.take_subset _ _) before
    rw [List.length_map]
    exact (mem_take_iff declared).mp before
  have there : graph.nextNamespace.index < (done.map Prod.fst ++ [entry]).length := by simp [home]
  refine ⟨there, _, ?_, (shows.addNamespace earlier).addKeywords there entry.keywords⟩
  rw [split, population_append, home]
  simp [population, NamespaceEntry.declarations, Function.comp_def]

/-- A namespace is built with all that it declares. -/
theorem Building.next (reads : directory.Reads manifest filler)
    {declared : NamespaceEntry × Nat} {before after : Graph × Table .entities String}
    (building : manifest.Building filler (declared :: rest) before)
    (ran : Manifest.addNamespace directory before declared = .ok after) :
    manifest.Building filler rest after := by
  obtain ⟨done, split, shows⟩ := building
  obtain ⟨request, asked, ran⟩ := except_bind_ok ran
  have start := Filling.start reads split shows asked
  obtain ⟨-, added, whole, shows⟩ := except_foldlM_ok
    (manifest.Filling filler _ before.1.nextNamespace (population rest))
    (fun filling ran => filling.next reads ran) start ran
  refine ⟨done ++ [declared], by simp [split], ?_⟩
  rw [split, List.append_cons, population_append] at whole
  rw [List.map_append, List.append_cancel_right whole]
  simpa using shows

/-- A namespace that is not built is at fault, or one of its members is. -/
theorem Building.blames (reads : directory.Reads manifest filler)
    {declared : NamespaceEntry × Nat} {before : Graph × Table .entities String}
    (building : manifest.Building filler (declared :: rest) before)
    (failed : Manifest.addNamespace directory before declared = .error cause) :
    manifest.Blames cause := by
  obtain ⟨done, split, shows⟩ := building
  obtain ⟨-, found⟩ := index_of_split split
  rcases except_bind_error failed with unasked | ⟨request, asked, failed⟩
  · exact request_blames reads found unasked
  have start := Filling.start reads split shows asked
  obtain ⟨member, later, middle, ⟨-, added, whole, shown⟩, failed⟩ := except_foldlM_error
    (manifest.Filling filler _ before.1.nextNamespace (population rest))
    (fun filling ran => filling.next reads ran) start failed
  rw [List.map_cons, List.append_assoc, List.cons_append] at whole
  have listed : member ∈ manifest.members := by
    apply mem_members_of_population
    rw [whole]
    exact List.mem_append_right _ List.mem_cons_self
  rcases except_bind_error failed with unmade | ⟨entity, -, failed⟩
  · exact entity_blames reads listed unmade
  · have foreseen := shown.foreseen reads whole
    split at failed
    · rename_i differs
      exact absurd foreseen differs
    · cases failed

theorem functionGraph_eq (manifest : Manifest) (filler : Char) : manifest.functionGraph filler =
    ⟨#[], #[], ((manifest.fillers filler).map fun entry => Counting.names entry.2).toArray⟩ := by
  suffices grown : ∀ (entries : List (String × Char)) (functions : Array NamingFunction),
      entries.foldl (fun (graph : Graph) entry => graph.addFunction (Counting.names entry.2))
        ⟨#[], #[], functions⟩ =
      ⟨#[], #[], functions ++ (entries.map fun entry => Counting.names entry.2).toArray⟩ by
    rw [functionGraph, Graph.empty, grown, Array.empty_append]
  intro entries
  induction entries with
  | nil => simp
  | cons entry rest ih =>
    intro functions
    rw [List.foldl_cons, Graph.addFunction, ih]
    simp

theorem shows_functionGraph (manifest : Manifest) (filler : Char) :
    manifest.Shows filler [] [] (manifest.functionGraph filler, .empty) := by
  rw [functionGraph_eq]
  constructor <;> simp [Graph.namespace?]

/-- A manifest that builds is well formed, and shown by what is built. -/
theorem build_ok (ran : manifest.build filler = .ok built) : manifest.WellFormed ∧
    manifest.Shows filler manifest.namespaces (population manifest.namespaces.zipIdx)
      (built.graph, built.labels) ∧
    built.ids.Numbers manifest.memberSlots := by
  obtain ⟨spaces, named, ran⟩ := except_bind_ok ran
  obtain ⟨members, housed, ran⟩ := except_bind_ok ran
  obtain ⟨⟨graph, labels⟩, folded, ran⟩ := except_bind_ok ran
  cases ran
  have reads := @directory_reads manifest filler spaces members named housed
  obtain ⟨done, split, shows⟩ := except_foldlM_ok (manifest.Building filler)
    (fun building ran => building.next reads ran) ⟨[], rfl, shows_functionGraph manifest filler⟩
    folded
  rw [List.append_nil] at split
  rw [← split, List.zipIdx_map_fst] at shows
  rw [namespaceIds, namespaceHandles_eq] at named
  rw [memberIds, memberHandlesFrom_eq] at housed
  refine ⟨⟨?_, ?_, ?_, ?_⟩, shows, reads.members⟩
  · have once := nodup_of_enterAll named
    rwa [reduceOption_spaceSlots] at once
  · rw [← reduceOption_memberSlots]
    exact nodup_of_enterAll housed
  · intro index entry found
    obtain ⟨early, late, ran⟩ :=
      except_foldlM_each folded (entry, index) (List.mem_zipIdx_iff_getElem?.mpr found)
    obtain ⟨request, asked, -⟩ := except_bind_ok ran
    exact (request_reads reads asked).1
  · intro member listed
    obtain ⟨entry, there, inside⟩ := List.mem_flatMap.mp listed
    obtain ⟨index, found⟩ := List.mem_iff_getElem?.mp there
    obtain ⟨early, late, ran⟩ :=
      except_foldlM_each folded (entry, index) (List.mem_zipIdx_iff_getElem?.mpr found)
    obtain ⟨request, -, ran⟩ := except_bind_ok ran
    obtain ⟨before, after, ran⟩ := except_foldlM_each ran member inside
    obtain ⟨entity, made, -⟩ := except_bind_ok ran
    exact (entity_reads reads made).1

/-- A manifest that does not build is at fault. -/
theorem build_blames (failed : manifest.build filler = .error cause) : manifest.Blames cause := by
  rcases except_bind_error failed with unnamed | ⟨spaces, named, failed⟩
  · rw [namespaceIds, namespaceHandles_eq] at unnamed
    obtain ⟨name, rfl, again⟩ := duplicate_of_enterAll unnamed
    rw [reduceOption_spaceSlots] at again
    exact .repeatedSpace again
  rcases except_bind_error failed with unhoused | ⟨members, housed, failed⟩
  · rw [memberIds, memberHandlesFrom_eq] at unhoused
    obtain ⟨key, rfl, again⟩ := duplicate_of_enterAll unhoused
    rw [← memberSlots, reduceOption_memberSlots] at again
    exact .repeatedMember again
  have reads := @directory_reads manifest filler spaces members named housed
  rcases except_bind_error failed with unbuilt | ⟨⟨graph, labels⟩, -, failed⟩
  · obtain ⟨declared, rest, middle, building, failed⟩ := except_foldlM_error
      (manifest.Building filler) (fun building ran => building.next reads ran)
      ⟨[], rfl, shows_functionGraph manifest filler⟩ unbuilt
    exact building.blames reads failed
  · cases failed

/-! ### The plan -/

/-- How many entities namespaces declare, reserved words included. -/
def entityCount (entries : List NamespaceEntry) : Nat :=
  entries.foldr (fun entry total => entry.keywords.length + entry.members.length + total) 0

theorem entityCount_cons (entry : NamespaceEntry) (rest : List NamespaceEntry) :
    entityCount (entry :: rest) =
      entry.keywords.length + entry.members.length + entityCount rest := rfl

/-- The namespaces without a parent, in order of declaration. -/
def parentless (manifest : Manifest) : List NamespaceRef :=
  manifest.namespaces.zipIdx.filterMap fun (entry, index) =>
    if entry.parent.isNone then some ⟨index⟩ else none

/-- The plan that a manifest makes. -/
def plan (manifest : Manifest) (filler : Char) : Plan where
  functions := (manifest.fillers filler).length
  spaces := manifest.namespaces.length
  entities := entityCount manifest.namespaces
  roots := manifest.parentless

theorem mem_parentless {root : NamespaceRef} : root ∈ manifest.parentless ↔
    ∃ entry, manifest.namespaces[root.index]? = some entry ∧ entry.parent = none := by
  unfold parentless
  rw [List.mem_filterMap]
  constructor
  · rintro ⟨⟨entry, index⟩, listed, chosen⟩
    dsimp only at chosen
    split at chosen
    · rename_i parentless
      cases chosen
      exact ⟨entry, List.mem_zipIdx_iff_getElem?.mp listed, by simpa using parentless⟩
    · cases chosen
  · rintro ⟨entry, found, parentless⟩
    exact ⟨(entry, root.index), List.mem_zipIdx_iff_getElem?.mpr found, by simp [parentless]⟩

/-- The roots of a graph are the namespaces without a parent, in both readings. -/
theorem Shows.roots (shows : manifest.Shows filler manifest.namespaces added (graph, labels)) :
    graph.roots = manifest.parentless := by
  unfold Graph.roots parentless
  rw [filterMap_zipIdx Namespace.isRoot,
    filterMap_zipIdx fun entry : NamespaceEntry => entry.parent.isNone]
  apply handlesWhere_congr
  apply List.ext_getElem?
  intro index
  have found : graph.namespaces.toList[index]? =
      manifest.namespaces[index]?.map (manifest.record manifest.namespaces added ⟨index⟩) := by
    simpa [Graph.namespace?] using shows.spaces ⟨index⟩
  rw [List.getElem?_map, List.getElem?_map, found, Option.map_map]
  congr 1
  funext entry
  simp [Namespace.isRoot, record]

theorem length_memberSlots : manifest.memberSlots.length = entityCount manifest.namespaces := by
  unfold memberSlots
  induction manifest.namespaces with
  | nil => rfl
  | cons entry rest ih =>
    rw [List.flatMap_cons, List.length_append, ih, entityCount_cons]
    simp [NamespaceEntry.declarations]

/-- What shows all of a well-formed manifest follows its plan. -/
theorem Shows.follows (formed : manifest.WellFormed) (shows : manifest.Shows filler
    manifest.namespaces (population manifest.namespaces.zipIdx) (graph, labels)) :
    graph.Follows (manifest.plan filler) where
  linked := shows.linked
  housed {handle entity} found := by
    rw [shows.entity?_eq] at found
    obtain ⟨item, listed, rfl⟩ := Option.map_eq_some_iff.mp found
    exact shows.mem_members_iff.mpr ⟨item, listed, (home_entityOf item).symm⟩
  descends {child space} born := by
    refine ⟨?_, shows.mem_children_iff.mpr born⟩
    rw [shows.parent?_eq] at born
    obtain ⟨entry, found, named⟩ := Option.bind_eq_some_iff.mp born
    obtain ⟨parent, given, rfl⟩ := Option.map_eq_some_iff.mp named
    have earlier := (formed.placed _ _ found).parent parent given
    have declared : parent ∈ manifest.spaceNames :=
      List.map_subset _ (List.take_subset _ _) earlier
    exact (mem_take_iff declared).mp earlier
  root {handle} there alone := by
    have listed := Graph.mem_roots_iff.mpr ⟨there, alone⟩
    rwa [shows.roots] at listed
  forbidden {handle other} listed := by
    rw [Graph.forbidden, shows.spaces] at listed
    cases found : manifest.namespaces[handle.index]? with
    | none => simp [found] at listed
    | some entry =>
      rw [found] at listed
      obtain ⟨there, -⟩ := List.getElem?_eq_some_iff.mp found
      exact index_lt_of_mem_avoided (formed.placed _ _ found) there listed
  function {handle entity function} found named := by
    rw [shows.entity?_eq] at found
    obtain ⟨⟨home, _ | member⟩, there, rfl⟩ := Option.map_eq_some_iff.mp found
    · cases named
    · have listed := mem_members_of_population (List.mem_of_getElem? there)
      exact (formed.grounded member listed).function_lt named
  dependency {handle entity dependency} found needed := by
    rw [shows.entity?_eq] at found
    obtain ⟨⟨home, _ | member⟩, there, rfl⟩ := Option.map_eq_some_iff.mp found
    · cases needed
    · have listed := mem_members_of_population (List.mem_of_getElem? there)
      have planned := (formed.grounded member listed).dependency_lt needed
      rwa [length_memberSlots] at planned
  functions := by
    rw [← Array.length_toList, shows.functions, List.length_map]
    rfl
  reliable {handle function} found := by
    rw [Graph.function?, ← Array.getElem?_toList, shows.functions] at found
    obtain ⟨entry, -, rfl⟩ := List.mem_map.mp (List.mem_of_getElem? found)
    exact Counting.reliable_names entry.2

/-- **A manifest that builds fulfils its plan.** -/
theorem build_fulfils (ran : manifest.build filler = .ok built) :
    built.graph.Fulfils (manifest.plan filler) ∧ built.roots = manifest.parentless := by
  obtain ⟨formed, shows, -⟩ := build_ok ran
  refine ⟨⟨shows.follows formed, ?_, ?_, ?_⟩, ?_⟩
  · exact Nat.le_of_eq shows.count.symm
  · have size : built.graph.entities.size = entityCount manifest.namespaces := by
      rw [← Array.length_toList, shows.entities, ← length_memberSlots, memberSlots_eq,
        List.length_map, List.length_map]
    exact Nat.le_of_eq size.symm
  · intro root listed
    obtain ⟨entry, found, -⟩ := mem_parentless.mp listed
    exact (List.getElem?_eq_some_iff.mp found).1
  · obtain ⟨spaces, -, ran⟩ := except_bind_ok ran
    obtain ⟨members, -, ran⟩ := except_bind_ok ran
    obtain ⟨⟨graph, labels⟩, -, ran⟩ := except_bind_ok ran
    cases ran
    rfl

end NameAssignment.Manifest
