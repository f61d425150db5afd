import NameAssignment.Proofs.Declarations
import NameAssignment.Proofs.Links

/-! Graphs that show what a manifest declares. A graph may show a part of a manifest: the namespaces
begun and the entities added so far, each under the handle of its position. Beginning one more
namespace or adding one more entity shows more. -/
namespace NameAssignment

namespace Manifest

variable {manifest : Manifest} {filler : Char}

/-- What namespaces declare, each with its home. -/
def population (spaces : List (NamespaceEntry × Nat)) : List (NamespaceRef × Declaration) :=
  spaces.flatMap fun (entry, index) => entry.declarations.map (⟨index⟩, ·)

/-- The entity that a declaration stands for. -/
def entityOf (manifest : Manifest) (filler : Char) : NamespaceRef × Declaration → Entity
  | (home, .word text) => ⟨home, text, .fixed text⟩
  | (home, .member member) => manifest.described filler home member

theorem home_entityOf (item : NamespaceRef × Declaration) :
    (manifest.entityOf filler item).home = item.1 := by
  obtain ⟨home, text | member⟩ := item
  · rfl
  · exact home_described home member

/-- What the members of a namespace avoid. -/
def avoided (manifest : Manifest) (handle : NamespaceRef) (entry : NamespaceEntry) :
    OrderedSet .namespaces :=
  let listed := .ofList (entry.forbidden.map manifest.spaceRef)
  if entry.forbidsSelf then listed.insert handle else listed

/-- The record of a namespace when some namespaces have been begun and some entities added. -/
def record (manifest : Manifest) (begun : List NamespaceEntry)
    (added : List (NamespaceRef × Declaration)) (handle : NamespaceRef) (entry : NamespaceEntry) :
    Namespace where
  name := entry.name
  parent := entry.parent.map manifest.spaceRef
  children := handlesWhere (fun other => other.parent.map manifest.spaceRef = some handle) begun
  members := handlesWhere (fun item => item.1 = handle) added
  forbidden := manifest.avoided handle entry

variable {begun : List NamespaceEntry} {added : List (NamespaceRef × Declaration)}

theorem record_concat_begun (last : NamespaceEntry) (handle : NamespaceRef)
    (entry : NamespaceEntry) : manifest.record (begun ++ [last]) added handle entry =
      if last.parent.map manifest.spaceRef = some handle then
        (manifest.record begun added handle entry).addChild ⟨begun.length⟩
      else manifest.record begun added handle entry := by
  simp only [record, handlesWhere_concat, decide_eq_true_eq]
  split
  · rfl
  · rw [List.append_nil]

theorem record_concat_added (last : NamespaceRef × Declaration) (handle : NamespaceRef)
    (entry : NamespaceEntry) : manifest.record begun (added ++ [last]) handle entry =
      if last.1 = handle then (manifest.record begun added handle entry).addMember ⟨added.length⟩
      else manifest.record begun added handle entry := by
  simp only [record, handlesWhere_concat, decide_eq_true_eq]
  split
  · rfl
  · rw [List.append_nil]

/-- The graph and the labels show the namespaces begun and the entities added, and nothing else. -/
structure Shows (manifest : Manifest) (filler : Char) (begun : List NamespaceEntry)
    (added : List (NamespaceRef × Declaration)) (state : Graph × Table .entities String) :
    Prop where
  functions : state.1.functions.toList =
    (manifest.fillers filler).map fun entry => Counting.names entry.2
  count : state.1.namespaces.size = begun.length
  spaces : ∀ handle, state.1.namespace? handle =
    begun[handle.index]?.map (manifest.record begun added handle)
  entities : state.1.entities.toList = added.map (manifest.entityOf filler)
  labels : ∀ handle, state.2.get? handle = added[handle.index]?.bind (·.2.id?)
  /-- Homes and parents have been begun before. -/
  housed : ∀ item ∈ added, item.1.index < begun.length
  descended : ∀ entry ∈ begun, ∀ parent ∈ entry.parent,
    (manifest.spaceRef parent).index < begun.length

variable {graph : Graph} {labels : Table .entities String}

theorem Shows.nextEntity (shows : manifest.Shows filler begun added (graph, labels)) :
    graph.nextEntity = ⟨added.length⟩ := by
  rw [Graph.nextEntity, ← Array.length_toList, shows.entities, List.length_map]

theorem Shows.entity?_eq (shows : manifest.Shows filler begun added (graph, labels))
    (handle : EntityRef) :
    graph.entity? handle = added[handle.index]?.map (manifest.entityOf filler) := by
  rw [Graph.entity?, ← Array.getElem?_toList, shows.entities, List.getElem?_map]

/-- A namespace not yet begun has neither children nor members. -/
theorem Shows.record_next (shows : manifest.Shows filler begun added (graph, labels))
    (entry : NamespaceEntry) : manifest.record begun added graph.nextNamespace entry =
      graph.fresh (manifest.requested entry) := by
  have next : graph.nextNamespace.index = begun.length := shows.count
  have childless : (handlesWhere (fun other => other.parent.map manifest.spaceRef =
      some graph.nextNamespace) begun : List NamespaceRef) = [] := by
    apply handlesWhere_eq_nil
    intro other listed
    rw [decide_eq_false_iff_not, Option.map_eq_some_iff]
    rintro ⟨parent, given, same⟩
    have earlier := shows.descended other listed parent given
    rw [same, next] at earlier
    exact Nat.lt_irrefl _ earlier
  have empty : (handlesWhere (fun item => item.1 = graph.nextNamespace) added :
      List EntityRef) = [] := by
    apply handlesWhere_eq_nil
    intro item listed
    rw [decide_eq_false_iff_not]
    intro same
    have inside := shows.housed item listed
    rw [same, next] at inside
    exact Nat.lt_irrefl _ inside
  rw [record, childless, empty]
  rfl

/-- A new namespace is shown if its parent has been begun. -/
theorem Shows.addNamespace (shows : manifest.Shows filler begun added (graph, labels))
    {entry : NamespaceEntry}
    (earlier : ∀ parent ∈ entry.parent, (manifest.spaceRef parent).index < begun.length) :
    manifest.Shows filler (begun ++ [entry]) added
      (graph.addNamespace (manifest.requested entry), labels) where
  functions := shows.functions
  count := by simp [shows.count]
  spaces := by
    intro handle
    have next : graph.nextNamespace = ⟨begun.length⟩ := by rw [Graph.nextNamespace, shows.count]
    have grown : (begun ++ [entry])[handle.index]?.map (manifest.record begun added handle) =
        if handle = graph.nextNamespace then some (graph.fresh (manifest.requested entry))
        else graph.namespace? handle := by
      have new : handle = graph.nextNamespace ↔ handle.index = begun.length := by
        rw [next]
        exact ⟨fun same => by rw [same], fun same => Handle.ext_index same⟩
      simp only [getElem?_concat, new]
      split
      · rename_i here
        rw [Option.map_some, new.mpr here, shows.record_next]
      · exact (shows.spaces handle).symm
    have parent : (manifest.requested entry).parent = entry.parent.map manifest.spaceRef := rfl
    rw [Graph.namespace?_addNamespace, ← grown, parent]
    cases (begun ++ [entry])[handle.index]? with
    | none => simp
    | some other =>
      rw [Option.map_some, Option.map_some, record_concat_begun, next]
      split <;> rfl
  entities := shows.entities
  labels := shows.labels
  housed item listed := by
    have inside := shows.housed item listed
    rw [List.length_append]
    exact Nat.lt_add_right _ inside
  descended other listed parent given := by
    rw [List.length_append]
    apply Nat.lt_add_right
    rcases List.mem_append.mp listed with old | new
    · exact shows.descended other old parent given
    · rw [List.mem_singleton.mp new] at given
      exact earlier parent given

/-- The labels after a declaration has been added: the id of a member is entered. -/
def labelled (labels : Table .entities String) (handle : EntityRef) (declaration : Declaration) :
    Table .entities String :=
  declaration.id?.elim labels (labels.insert handle)

theorem get?_labelled (handle other : EntityRef) (declaration : Declaration) :
    (labelled labels handle declaration).get? other =
      if handle = other then declaration.id?.or (labels.get? other) else labels.get? other := by
  unfold labelled
  cases declaration.id? with
  | none => simp
  | some key => simp [Table.get?_insert]

/-- A new entity is shown if its home has been begun. -/
theorem Shows.addEntity (shows : manifest.Shows filler begun added (graph, labels))
    {item : NamespaceRef × Declaration} (there : item.1.index < begun.length) :
    manifest.Shows filler begun (added ++ [item])
      (graph.addEntity (manifest.entityOf filler item),
        labelled labels graph.nextEntity item.2) where
  functions := shows.functions
  count := by simp [shows.count]
  spaces := by
    intro handle
    rw [Graph.namespace?_addEntity, home_entityOf, shows.spaces, shows.nextEntity]
    cases begun[handle.index]? with
    | none => simp
    | some other =>
      simp only [Option.map_some, record_concat_added, @eq_comm _ item.1]
      split <;> rfl
  entities := by
    have grown : graph.entities.toList = added.map (manifest.entityOf filler) := shows.entities
    simp [Graph.addEntity, grown]
  labels := by
    intro handle
    have new : graph.nextEntity = handle ↔ handle.index = added.length := by
      rw [shows.nextEntity]
      exact ⟨fun same => by rw [← same], fun same => (Handle.ext_index same).symm⟩
    simp only [get?_labelled, getElem?_concat, new, shows.labels]
    split
    · rename_i here
      rw [here, List.getElem?_eq_none (Nat.le_refl _), Option.bind_none, Option.or_none]
      rfl
    · rfl
  housed other listed := by
    rcases List.mem_append.mp listed with old | new
    · exact shows.housed other old
    · rw [List.mem_singleton.mp new]
      exact there
  descended := shows.descended

/-- Reserved words are shown in front of what follows them. -/
theorem Shows.addKeywords (shows : manifest.Shows filler begun added (graph, labels))
    {home : NamespaceRef} (there : home.index < begun.length) (words : List String) :
    manifest.Shows filler begun (added ++ words.map fun word => (home, .word word))
      (words.foldl (·.addFixed home ·) graph, labels) := by
  induction words generalizing graph added with
  | nil => simpa using shows
  | cons word rest ih =>
    have one : manifest.Shows filler begun (added ++ [(home, .word word)])
        (graph.addFixed home word, labels) := shows.addEntity there
    have grown := ih one
    rw [List.append_assoc] at grown
    exact grown

theorem toList_avoided (handle : NamespaceRef) (entry : NamespaceEntry) :
    (manifest.avoided handle entry).toList =
      let listed := (entry.forbidden.map manifest.spaceRef).eraseDups
      if entry.forbidsSelf = true ∧ handle ∉ listed then listed ++ [handle] else listed := by
  have lawful := OrderedSet.lawful_ofList (entry.forbidden.map manifest.spaceRef)
  rw [avoided, ← OrderedSet.toList_ofList]
  cases entry.forbidsSelf with
  | false => simp
  | true =>
    cases known : (OrderedSet.ofList (entry.forbidden.map manifest.spaceRef)).contains handle <;>
      simp [OrderedSet.toList_insert, lawful.listed, known]

theorem lawful_avoided (handle : NamespaceRef) (entry : NamespaceEntry) :
    (manifest.avoided handle entry).Lawful := by
  unfold avoided
  dsimp only
  split
  · exact OrderedSet.lawful_insert (OrderedSet.lawful_ofList _) _
  · exact OrderedSet.lawful_ofList _

/-! ### What can be read off -/

theorem Shows.mem_members_iff (shows : manifest.Shows filler begun added (graph, labels))
    {space : NamespaceRef} {member : EntityRef} : member ∈ graph.members space ↔
      ∃ item, added[member.index]? = some item ∧ item.1 = space := by
  have inside : (∃ item, added[member.index]? = some item ∧ item.1 = space) →
      space.index < begun.length := by
    rintro ⟨item, found, rfl⟩
    exact shows.housed item (List.mem_of_getElem? found)
  rw [Graph.members, shows.spaces]
  cases found : begun[space.index]? with
  | none =>
    have outside := List.getElem?_eq_none_iff.mp found
    simp only [Option.map_none, Option.getD_none, List.not_mem_nil, false_iff]
    exact fun listed => Nat.not_lt.mpr outside (inside listed)
  | some entry => simp [record, mem_handlesWhere]

theorem Shows.parent?_eq (shows : manifest.Shows filler begun added (graph, labels))
    (handle : NamespaceRef) : graph.parent? handle =
      begun[handle.index]?.bind fun entry => entry.parent.map manifest.spaceRef := by
  rw [Graph.parent?, shows.spaces]
  cases begun[handle.index]? <;> rfl

theorem Shows.mem_children_iff (shows : manifest.Shows filler begun added (graph, labels))
    {space child : NamespaceRef} :
    child ∈ graph.children space ↔ graph.parent? child = some space := by
  have inside : graph.parent? child = some space → space.index < begun.length := by
    rw [shows.parent?_eq, Option.bind_eq_some_iff]
    rintro ⟨entry, found, named⟩
    obtain ⟨parent, given, rfl⟩ := Option.map_eq_some_iff.mp named
    exact shows.descended entry (List.mem_of_getElem? found) parent given
  rw [Graph.children, shows.spaces]
  cases found : begun[space.index]? with
  | none =>
    have outside := List.getElem?_eq_none_iff.mp found
    simp only [Option.map_none, Option.getD_none, List.not_mem_nil, false_iff]
    exact fun listed => Nat.not_lt.mpr outside (inside listed)
  | some entry =>
    rw [shows.parent?_eq]
    simp [record, mem_handlesWhere, Option.bind_eq_some_iff]

/-- What a namespace forbids is declared or is the namespace itself. -/
theorem index_lt_of_mem_avoided (placed : manifest.Placed handle.index entry)
    (there : handle.index < manifest.namespaces.length)
    (listed : other ∈ (manifest.avoided handle entry).toList) :
    other.index < manifest.namespaces.length := by
  have either : other = handle ∨ other ∈ entry.forbidden.map manifest.spaceRef := by
    unfold avoided at listed
    dsimp only at listed
    split at listed
    · rwa [OrderedSet.mem_toList_insert (OrderedSet.lawful_ofList _),
        OrderedSet.mem_toList_ofList] at listed
    · exact .inr ((OrderedSet.mem_toList_ofList _ _).mp listed)
  rcases either with rfl | declared
  · exact there
  · obtain ⟨name, forbidden, rfl⟩ := List.mem_map.mp declared
    exact spaceRef_lt (placed.forbidden name forbidden)

/-- Members and children are listed by their positions, so each is listed once and by its own home
or parent. -/
theorem Shows.linked (shows : manifest.Shows filler begun added (graph, labels)) :
    graph.Linked where
  housed {space member} listed := by
    obtain ⟨item, found, home⟩ := shows.mem_members_iff.mp listed
    refine ⟨_, by rw [shows.entity?_eq, found]; rfl, ?_⟩
    rw [home_entityOf, home]
  memberOnce space := by
    rw [Graph.members, shows.spaces]
    cases begun[space.index]? with
    | none => exact List.nodup_nil
    | some entry => exact nodup_handlesWhere _ _
  born {space child} listed := by
    have parent := shows.mem_children_iff.mp listed
    exact ⟨Graph.namespace?_of_parent? parent, parent⟩
  childOnce space := by
    rw [Graph.children, shows.spaces]
    cases begun[space.index]? with
    | none => exact List.nodup_nil
    | some entry => exact nodup_handlesWhere _ _
  lawful {handle space} found := by
    rw [shows.spaces] at found
    obtain ⟨entry, -, rfl⟩ := Option.map_eq_some_iff.mp found
    exact lawful_avoided handle entry

end Manifest

end NameAssignment
