import NameAssignment.Proofs.Outcome
import NameAssignment.Proofs.Positions

/-! What a manifest declares, read without building anything. A reference stands for the position of
what is declared with the name. The directory reads references in the same way; so what is asked for
is what is declared, and each refusal is about a declaration at fault. -/
namespace NameAssignment

/-- What becomes an entity: a reserved word or a member. -/
inductive Declaration
  | word (text : String)
  | member (entry : MemberEntry)

namespace Declaration

/-- The id by which members refer to it. Nothing refers to a reserved word. -/
def id? : Declaration → Option String
  | .word _ => none
  | .member entry => some entry.id

def label : Declaration → String
  | .word text => text
  | .member entry => entry.id

end Declaration

/-- What a namespace declares, reserved words first. -/
def NamespaceEntry.declarations (entry : NamespaceEntry) : List Declaration :=
  entry.keywords.map .word ++ entry.members.map .member

def MemberSource.dependencies : MemberSource → List String
  | .dependent depends _ _ => depends
  | _ => []

namespace Manifest

variable {manifest : Manifest} {filler : Char} {directory : Directory}

/-! ### What is declared -/

def spaceNames (manifest : Manifest) : List String := manifest.namespaces.map (·.name)

def members (manifest : Manifest) : List MemberEntry := manifest.namespaces.flatMap (·.members)

def ids (manifest : Manifest) : List String := manifest.members.map (·.id)

def spaceSlots (manifest : Manifest) : List (Option String) :=
  manifest.namespaces.map (some ·.name)

/-- Members by id, with the reserved words between them. -/
def memberSlots (manifest : Manifest) : List (Option String) :=
  manifest.namespaces.flatMap (·.declarations.map (·.id?))

def functionSlots (manifest : Manifest) (filler : Char) : List (Option String) :=
  (manifest.fillers filler).map (some ·.1)

theorem reduceOption_spaceSlots : manifest.spaceSlots.reduceOption = manifest.spaceNames :=
  reduceOption_map_some _ _

theorem reduceOption_memberSlots : manifest.memberSlots.reduceOption = manifest.ids := by
  have slots (entry : NamespaceEntry) :
      (entry.declarations.map (·.id?)).filterMap id = entry.members.map (·.id) := by
    simp [NamespaceEntry.declarations, Declaration.id?, Function.comp_def]
  rw [memberSlots, List.reduceOption, List.filterMap_flatMap, ids, members, List.map_flatMap]
  simp only [slots]

theorem mem_spaceSlots_iff : some name ∈ manifest.spaceSlots ↔ name ∈ manifest.spaceNames := by
  rw [← List.reduceOption_mem_iff, reduceOption_spaceSlots]

theorem mem_memberSlots_iff : some key ∈ manifest.memberSlots ↔ key ∈ manifest.ids := by
  rw [← List.reduceOption_mem_iff, reduceOption_memberSlots]

/-- The naming functions are the declared ones and `default`. -/
theorem mem_functionSlots_iff : some name ∈ manifest.functionSlots filler ↔
    name = defaultFunction ∨ manifest.functions.contains name = true := by
  have declared : manifest.functions.contains name = true ↔
      ∃ entry ∈ manifest.functions.entries, entry.1 = name := by
    rw [NameMap.contains_iff, List.mem_map]
  unfold functionSlots fillers
  dsimp only
  split
  · rename_i known
    have kept : name = defaultFunction → manifest.functions.contains name = true :=
      fun same => same ▸ known
    simpa [declared] using kept
  · simp [declared, eq_comm]

theorem nodup_fillers (manifest : Manifest) (filler : Char) :
    ((manifest.fillers filler).map Prod.fst).Nodup := by
  have once : (manifest.functions.entries.map Prod.fst).Nodup := manifest.functions.nodup_keys
  unfold fillers
  dsimp only
  split
  · rw [List.map_map]
    exact once
  · rename_i absent
    rw [NameMap.contains_iff] at absent
    rw [List.map_cons, List.map_map]
    exact List.nodup_cons.mpr ⟨absent, once⟩

/-! ### The handles of what is declared -/

def spaceRef (manifest : Manifest) (name : String) : NamespaceRef :=
  position manifest.spaceSlots name

def memberRef (manifest : Manifest) (key : String) : EntityRef :=
  position manifest.memberSlots key

def functionRef (manifest : Manifest) (filler : Char) (name : Option String) : FunctionRef :=
  position (manifest.functionSlots filler) (name.getD defaultFunction)

/-- What is declared earlier has a smaller handle. -/
theorem mem_take_iff (declared : name ∈ manifest.spaceNames) :
    name ∈ (manifest.namespaces.take index).map (·.name) ↔
      (manifest.spaceRef name).index < index := by
  have taken := @List.mem_take_iff_idxOf_lt _ _ _ _ index _ (mem_spaceSlots_iff.mpr declared)
  rw [spaceSlots, ← List.map_take] at taken
  rw [spaceRef, position, spaceSlots, ← taken]
  simp only [List.mem_map, Option.some.injEq]

theorem spaceRef_lt (declared : name ∈ manifest.spaceNames) :
    (manifest.spaceRef name).index < manifest.namespaces.length := by
  have inside : (manifest.spaceRef name).index < manifest.spaceSlots.length :=
    position_lt (mem_spaceSlots_iff.mpr declared)
  rwa [spaceSlots, List.length_map] at inside

theorem memberRef_lt (declared : key ∈ manifest.ids) :
    (manifest.memberRef key).index < manifest.memberSlots.length :=
  position_lt (mem_memberSlots_iff.mpr declared)

theorem functionRef_lt (known : name.getD defaultFunction = defaultFunction ∨
      manifest.functions.contains (name.getD defaultFunction) = true) :
    (manifest.functionRef filler name).index < (manifest.fillers filler).length := by
  have inside : (manifest.functionRef filler name).index <
      (manifest.functionSlots filler).length := position_lt (mem_functionSlots_iff.mpr known)
  rwa [functionSlots, List.length_map] at inside

/-- What the declaration of a namespace asks for. -/
def requested (manifest : Manifest) (entry : NamespaceEntry) : NamespaceRequest where
  name := entry.name
  parent := entry.parent.map manifest.spaceRef
  forbidden := entry.forbidden.map manifest.spaceRef
  forbidsSelf := entry.forbidsSelf

/-- The entity that a member stands for. -/
def described (manifest : Manifest) (filler : Char) (home : NamespaceRef) (member : MemberEntry) :
    Entity :=
  match member.source with
  | .fixed name => ⟨home, name, .fixed name⟩
  | .simple propose function =>
    ⟨home, propose, .simple (manifest.functionRef filler function) propose⟩
  | .dependent depends template function =>
    ⟨home, member.id, .dependent (manifest.functionRef filler function)
      (depends.map manifest.memberRef) (Template.render template)⟩

theorem home_described (home : NamespaceRef) (member : MemberEntry) :
    (manifest.described filler home member).home = home := by
  unfold described
  split <;> rfl

/-! ### Manifests without a fault -/

/-- The parent of a namespace is declared before it, and what it forbids is declared. -/
structure Placed (manifest : Manifest) (index : Nat) (entry : NamespaceEntry) : Prop where
  parent : ∀ parent, entry.parent = some parent →
    parent ∈ (manifest.namespaces.take index).map (·.name)
  forbidden : ∀ name ∈ entry.forbidden, name ∈ manifest.spaceNames

/-- A member refers to what is declared, and its template to what it depends on. -/
structure Grounded (manifest : Manifest) (member : MemberEntry) : Prop where
  function : ∀ asked, member.source.function? = some asked →
    asked = defaultFunction ∨ manifest.functions.contains asked = true
  dependency : ∀ key ∈ member.source.dependencies, key ∈ manifest.ids
  template : ∀ depends template function, member.source = .dependent depends template function →
    Directory.checkTemplate member.id template depends.length = .ok ()

theorem Grounded.function_lt (grounded : manifest.Grounded member)
    (named : (manifest.described filler home member).function? = some asked) :
    asked.index < (manifest.fillers filler).length := by
  unfold described at named
  split at named
  · cases named
  · rename_i source
    cases named
    exact functionRef_lt (grounded.function _ (by rw [source]; rfl))
  · rename_i source
    cases named
    exact functionRef_lt (grounded.function _ (by rw [source]; rfl))

theorem Grounded.dependency_lt (grounded : manifest.Grounded member)
    (needed : other ∈ (manifest.described filler home member).dependencies) :
    other.index < manifest.memberSlots.length := by
  unfold described at needed
  split at needed
  · cases needed
  · cases needed
  · rename_i source
    obtain ⟨key, listed, rfl⟩ := List.mem_map.mp needed
    exact memberRef_lt (grounded.dependency _ (by rwa [source]))

structure WellFormed (manifest : Manifest) : Prop where
  spacesOnce : manifest.spaceNames.Nodup
  membersOnce : manifest.ids.Nodup
  placed : ∀ index entry, manifest.namespaces[index]? = some entry → manifest.Placed index entry
  grounded : ∀ member ∈ manifest.members, manifest.Grounded member

/-- What a refusal blames is a fault of the manifest. -/
inductive Blames (manifest : Manifest) : Error → Prop
  | repeatedSpace (again : manifest.spaceNames.Duplicate name) :
    Blames manifest (.manifest (.duplicateNamespace name))
  | repeatedMember (again : manifest.ids.Duplicate key) :
    Blames manifest (.manifest (.duplicateMember key))
  | unknownSpace (listed : entry ∈ manifest.namespaces)
      (asked : entry.parent = some name ∨ name ∈ entry.forbidden)
      (absent : name ∉ manifest.spaceNames) :
    Blames manifest (.manifest (.unknownNamespace entry.name name))
  | lateParent (found : manifest.namespaces[index]? = some entry)
      (asked : entry.parent = some parent)
      (late : parent ∉ (manifest.namespaces.take index).map (·.name)) :
    Blames manifest (.manifest (.lateParent entry.name parent))
  | unknownFunction (listed : member ∈ manifest.members)
      (asked : member.source.function? = some name)
      (absent : ¬ (name = defaultFunction ∨ manifest.functions.contains name = true)) :
    Blames manifest (.manifest (.unknownFunction member.id name))
  | unknownMember (listed : member ∈ manifest.members)
      (asked : key ∈ member.source.dependencies) (absent : key ∉ manifest.ids) :
    Blames manifest (.manifest (.unknownDependency member.id key))
  | unfilled (listed : member ∈ manifest.members)
      (source : member.source = .dependent depends template function)
      (left : Template.outOfRange? template depends.length = some index) :
    Blames manifest (.manifest (.placeholderOutOfRange member.id index depends.length))

/-- Nothing can be blamed on a manifest that is well formed. -/
theorem WellFormed.blameless (formed : manifest.WellFormed) : ¬ manifest.Blames cause := by
  intro blamed
  cases blamed with
  | repeatedSpace again => exact List.nodup_iff_forall_not_duplicate.mp formed.spacesOnce _ again
  | repeatedMember again => exact List.nodup_iff_forall_not_duplicate.mp formed.membersOnce _ again
  | unknownSpace listed asked absent =>
    obtain ⟨index, found⟩ := List.mem_iff_getElem?.mp listed
    have placed := formed.placed index _ found
    rcases asked with above | avoided
    · exact absent (List.map_subset _ (List.take_subset _ _) (placed.parent _ above))
    · exact absent (placed.forbidden _ avoided)
  | lateParent found asked late => exact late ((formed.placed _ _ found).parent _ asked)
  | unknownFunction listed asked absent =>
    exact absent ((formed.grounded _ listed).function _ asked)
  | unknownMember listed asked absent =>
    exact absent ((formed.grounded _ listed).dependency _ asked)
  | unfilled listed source left =>
    have checked := (formed.grounded _ listed).template _ _ _ source
    rw [Directory.checkTemplate, left] at checked
    cases checked

/-! ### The directory reads references by position -/

theorem memberHandlesFrom_eq (next : Nat) (entries : List NamespaceEntry) :
    memberHandlesFrom next entries =
      numbered next (entries.flatMap (·.declarations.map (·.id?))) := by
  induction entries generalizing next with
  | nil => rfl
  | cons entry rest ih =>
    have split : entry.declarations.map (·.id?) =
        entry.keywords.map (fun _ => none) ++ entry.members.map (some ·.id) := by
      rw [NamespaceEntry.declarations, List.map_append, List.map_map, List.map_map]
      rfl
    rw [memberHandlesFrom, ih, List.flatMap_cons, split, List.append_assoc, numbered_append,
      numbered_append, numbered_map_none, numbered_map_some]
    simp

/-- What references stand for is the position of what is declared. -/
structure Directory.Reads (directory : Directory) (manifest : Manifest) (filler : Char) :
    Prop where
  functions : directory.functions.Numbers (manifest.functionSlots filler)
  namespaces : directory.namespaces.Numbers manifest.spaceSlots
  members : directory.members.Numbers manifest.memberSlots

theorem namespaceHandles_eq : manifest.namespaceHandles = numbered 0 manifest.spaceSlots := by
  rw [spaceSlots, numbered_map_some]
  simp [namespaceHandles]

theorem functionIds_eq (manifest : Manifest) (filler : Char) :
    manifest.functionIds filler = .ofList (numbered 0 (manifest.functionSlots filler)) := by
  rw [functionSlots, numbered_map_some]
  simp [functionIds]

theorem functionIds_numbers (manifest : Manifest) (filler : Char) :
    (manifest.functionIds filler).Numbers (manifest.functionSlots filler) := by
  intro name handle
  have once : ((numbered 0 (manifest.functionSlots filler) :
      List (String × FunctionRef)).map Prod.fst).Nodup := by
    rw [map_fst_numbered, functionSlots, reduceOption_map_some]
    exact manifest.nodup_fillers filler
  rw [← mem_numbered_iff, functionIds_eq]
  exact ⟨NameMap.mem_of_get?_ofList, NameMap.get?_ofList once⟩

theorem directory_reads {spaces : NameMap NamespaceRef} {members : NameMap EntityRef}
    (named : manifest.namespaceIds = .ok spaces) (housed : manifest.memberIds = .ok members) :
    Directory.Reads ⟨manifest.functionIds filler, spaces, members⟩ manifest filler where
  functions := functionIds_numbers manifest filler
  namespaces := by
    rw [namespaceIds, namespaceHandles_eq] at named
    exact numbers_of_enterAll named
  members := by
    rw [memberIds, memberHandlesFrom_eq] at housed
    exact numbers_of_enterAll housed

theorem namespace?_ok {entry : NamespaceEntry}
    (ran : directory.namespace? entry name = .ok handle) :
    directory.namespaces.get? name = some handle := by
  unfold Directory.namespace? at ran
  split at ran
  · rename_i found
    cases ran
    exact found
  · cases ran

variable (reads : directory.Reads manifest filler)
include reads

theorem namespace?_reads {entry : NamespaceEntry}
    (ran : directory.namespace? entry name = .ok handle) :
    name ∈ manifest.spaceNames ∧ handle = manifest.spaceRef name := by
  obtain ⟨listed, same⟩ := reads.namespaces.eq_position (namespace?_ok ran)
  exact ⟨mem_spaceSlots_iff.mp listed, same⟩

theorem function?_reads {member : MemberEntry}
    (ran : directory.function? member name = .ok handle) :
    (name.getD defaultFunction = defaultFunction ∨
      manifest.functions.contains (name.getD defaultFunction) = true) ∧
      handle = manifest.functionRef filler name := by
  unfold Directory.function? at ran
  dsimp only at ran
  split at ran
  · rename_i found
    cases ran
    obtain ⟨listed, same⟩ := reads.functions.eq_position found
    exact ⟨mem_functionSlots_iff.mp listed, same⟩
  · cases ran

theorem dependency?_reads {member : MemberEntry}
    (ran : directory.dependency? member key = .ok handle) :
    key ∈ manifest.ids ∧ handle = manifest.memberRef key := by
  unfold Directory.dependency? at ran
  split at ran
  · rename_i found
    cases ran
    obtain ⟨listed, same⟩ := reads.members.eq_position found
    exact ⟨mem_memberSlots_iff.mp listed, same⟩
  · cases ran

/-- A namespace whose request is made is placed, and its request is what it declares. -/
theorem request_reads {entry : NamespaceEntry} (ran : directory.request entry index = .ok request) :
    manifest.Placed index entry ∧ request = manifest.requested entry := by
  obtain ⟨parent, above, ran⟩ := except_bind_ok ran
  obtain ⟨forbidden, avoided, ran⟩ := except_bind_ok ran
  cases ran
  obtain ⟨known, rfl⟩ := except_mapM_made (fun ran => namespace?_reads reads ran) avoided
  suffices read : (∀ name, entry.parent = some name →
      name ∈ (manifest.namespaces.take index).map (·.name)) ∧
      parent = entry.parent.map manifest.spaceRef by
    obtain ⟨earlier, rfl⟩ := read
    exact ⟨⟨earlier, known⟩, rfl⟩
  unfold Directory.parent? at above
  split at above
  · rename_i none
    cases above
    simp [none]
  · rename_i name given
    obtain ⟨handle, found, above⟩ := except_bind_ok above
    obtain ⟨listed, rfl⟩ := namespace?_reads reads found
    split at above
    · cases above
    · rename_i early
      cases above
      rw [given]
      refine ⟨?_, rfl⟩
      rintro other same
      cases same
      exact (mem_take_iff listed).mpr (Nat.not_le.mp early)

/-- A member whose entity is made is grounded, and its entity is the one it stands for. -/
theorem entity_reads {member : MemberEntry} (ran : directory.entity home member = .ok entity) :
    manifest.Grounded member ∧ entity = manifest.described filler home member := by
  unfold Directory.entity at ran
  split at ran
  · rename_i source
    cases ran
    exact ⟨⟨by simp [source, MemberSource.function?], by simp [source, MemberSource.dependencies],
      by simp [source]⟩, by simp [described, source]⟩
  · rename_i source
    obtain ⟨function, asked, ran⟩ := except_bind_ok ran
    obtain ⟨known, rfl⟩ := function?_reads reads asked
    cases ran
    exact ⟨⟨by simpa [source, MemberSource.function?] using known,
      by simp [source, MemberSource.dependencies], by simp [source]⟩, by simp [described, source]⟩
  · rename_i depends template name source
    obtain ⟨function, asked, ran⟩ := except_bind_ok ran
    obtain ⟨known, rfl⟩ := function?_reads reads asked
    obtain ⟨dependencies, needed, ran⟩ := except_bind_ok ran
    obtain ⟨declared, rfl⟩ := except_mapM_made (fun ran => dependency?_reads reads ran) needed
    obtain ⟨⟨⟩, checked, ran⟩ := except_bind_ok ran
    rw [List.length_map] at checked
    cases ran
    refine ⟨⟨by simpa [source, MemberSource.function?] using known,
      by simpa [source, MemberSource.dependencies] using declared, ?_⟩, by simp [described, source]⟩
    rintro _ _ _ same
    cases source.symm.trans same
    exact checked

theorem namespace?_error {entry : NamespaceEntry}
    (failed : directory.namespace? entry name = .error cause) :
    cause = .manifest (.unknownNamespace entry.name name) ∧ name ∉ manifest.spaceNames := by
  unfold Directory.namespace? at failed
  split at failed
  · cases failed
  · rename_i missing
    cases failed
    exact ⟨rfl, mt mem_spaceSlots_iff.mpr (reads.namespaces.absent missing)⟩

/-- A request that is not made blames the namespace. -/
theorem request_blames {entry : NamespaceEntry} (found : manifest.namespaces[index]? = some entry)
    (failed : directory.request entry index = .error cause) : manifest.Blames cause := by
  have listed := List.mem_of_getElem? found
  rcases except_bind_error failed with above | ⟨parent, -, failed⟩
  · unfold Directory.parent? at above
    split at above
    · cases above
    · rename_i name given
      rcases except_bind_error above with unknown | ⟨handle, known, late⟩
      · obtain ⟨rfl, absent⟩ := namespace?_error reads unknown
        exact .unknownSpace listed (.inl given) absent
      · obtain ⟨declared, rfl⟩ := namespace?_reads reads known
        split at late
        · rename_i after
          cases late
          refine .lateParent found given ?_
          exact mt (mem_take_iff declared).mp (Nat.not_lt.mpr after)
        · cases late
  · rcases except_bind_error failed with avoided | ⟨forbidden, -, failed⟩
    · obtain ⟨name, asked, unknown⟩ := except_mapM_error avoided
      obtain ⟨rfl, absent⟩ := namespace?_error reads unknown
      exact .unknownSpace listed (.inr asked) absent
    · cases failed

theorem function?_blames {member : MemberEntry} (listed : member ∈ manifest.members)
    (asked : member.source.function? = some (name.getD defaultFunction))
    (failed : directory.function? member name = .error cause) : manifest.Blames cause := by
  unfold Directory.function? at failed
  dsimp only at failed
  split at failed
  · cases failed
  · rename_i missing
    cases failed
    exact .unknownFunction listed asked
      (mt mem_functionSlots_iff.mpr (reads.functions.absent missing))

theorem dependency?_blames {member : MemberEntry} (listed : member ∈ manifest.members)
    (asked : key ∈ member.source.dependencies)
    (failed : directory.dependency? member key = .error cause) : manifest.Blames cause := by
  unfold Directory.dependency? at failed
  split at failed
  · cases failed
  · rename_i missing
    cases failed
    exact .unknownMember listed asked (mt mem_memberSlots_iff.mpr (reads.members.absent missing))

/-- An entity that is not made blames the member. -/
theorem entity_blames {member : MemberEntry} (listed : member ∈ manifest.members)
    (failed : directory.entity home member = .error cause) : manifest.Blames cause := by
  unfold Directory.entity at failed
  split at failed
  · cases failed
  · rename_i source
    rcases except_bind_error failed with unknown | ⟨function, -, failed⟩
    · exact function?_blames reads listed (by rw [source]; rfl) unknown
    · cases failed
  · rename_i depends template name source
    rcases except_bind_error failed with unknown | ⟨function, -, failed⟩
    · exact function?_blames reads listed (by rw [source]; rfl) unknown
    rcases except_bind_error failed with needed | ⟨dependencies, found, failed⟩
    · obtain ⟨key, asked, unknown⟩ := except_mapM_error needed
      exact dependency?_blames reads listed (by rw [source]; exact asked) unknown
    rcases except_bind_error failed with unfilled | ⟨⟨⟩, -, failed⟩
    · obtain ⟨-, rfl⟩ := except_mapM_made (fun ran => dependency?_reads reads ran) found
      rw [List.length_map, Directory.checkTemplate] at unfilled
      split at unfilled
      · rename_i left
        cases unfilled
        exact .unfilled listed source left
      · cases unfilled
    · cases failed

end Manifest

end NameAssignment
