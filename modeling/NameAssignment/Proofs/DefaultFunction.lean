import Mathlib.Data.List.InsertIdx
import NameAssignment.Proofs.Attribution
import NameAssignment.Proofs.Building
import NameAssignment.Proofs.Renaming

/-! A naming function `default` that is not declared is as good as one that is. It is there in
either case, but with another handle: undeclared it comes before the declared naming functions, and
declared it stands between them, in the order of names. So what is built differs in the handles of
the naming functions only, and these make no difference to the names that are given. -/
namespace NameAssignment

/-- A new key goes to a place between the others. -/
theorem NameMap.insertEntry_eq_insertIdx {entries : List (String × α)}
    (absent : key ∉ entries.map Prod.fst) (value : α) : ∃ place ≤ entries.length,
      insertEntry key value entries = entries.insertIdx place (key, value) := by
  induction entries with
  | nil => exact ⟨0, Nat.le_refl 0, rfl⟩
  | cons entry rest ih =>
    obtain ⟨differ, later⟩ := not_or.mp (mt List.mem_cons.mpr absent)
    unfold insertEntry
    rw [if_neg differ]
    split
    · exact ⟨0, Nat.zero_le _, rfl⟩
    · obtain ⟨place, within, placed⟩ := ih later
      exact ⟨place + 1, Nat.succ_le_succ within, by rw [placed, List.insertIdx_succ_cons]⟩

namespace Manifest

variable {rename : FunctionRef → FunctionRef} {manifest again : Manifest} {filler other : Char}
  {directory renamed : Directory} {functions : Array NamingFunction} {graph : Graph}

/-! ### Manifests with their naming functions in another order -/

/-- The manifests declare the same namespaces, and have the same naming functions in another
order. -/
structure Reorders (rename : FunctionRef → FunctionRef) (manifest again : Manifest)
    (filler other : Char) : Prop where
  injective : Function.Injective rename
  namespaces : again.namespaces = manifest.namespaces
  same : (again.fillers other).Perm (manifest.fillers filler)
  /-- A naming function that has a handle in the one has the renamed handle in the other. -/
  moved : ∀ handle,
    (again.fillers other)[(rename handle).index]? = (manifest.fillers filler)[handle.index]?

/-- The directories differ in the handles of the naming functions only. -/
structure Directory.Renames (rename : FunctionRef → FunctionRef) (directory renamed : Directory) :
    Prop where
  functions : ∀ name, renamed.functions.get? name = (directory.functions.get? name).map rename
  namespaces : renamed.namespaces = directory.namespaces
  members : renamed.members = directory.members

namespace Directory.Renames
variable (renames : Renames rename directory renamed)
include renames

theorem namespace? : renamed.namespace? = directory.namespace? := by
  funext entry name
  rw [Directory.namespace?, Directory.namespace?, renames.namespaces]

theorem dependency? : renamed.dependency? = directory.dependency? := by
  funext member id
  rw [Directory.dependency?, Directory.dependency?, renames.members]

theorem request : renamed.request = directory.request := by
  funext entry index
  simp only [Directory.request, Directory.parent?, renames.namespace?]

theorem function? (member : MemberEntry) (name : Option String) :
    renamed.function? member name = (directory.function? member name).map rename := by
  simp only [Directory.function?, renames.functions]
  cases directory.functions.get? (name.getD defaultFunction) <;> rfl

/-- A member describes the same entity, but for the handle of its naming function. -/
theorem entity (home : NamespaceRef) (member : MemberEntry) :
    renamed.entity home member = (directory.entity home member).map (Entity.renamed rename) := by
  unfold Directory.entity
  rw [renames.dependency?]
  cases member.source with
  | fixed name => rfl
  | simple propose function =>
    dsimp only
    rw [renames.function?]
    exact except_map_bind fun _ => rfl
  | dependent depends template function =>
    dsimp only
    rw [renames.function?]
    exact except_map_bind fun _ => except_bind_map fun _ => except_bind_map fun _ => rfl

end Directory.Renames

/-! ### Building with renamed naming functions -/

theorem addEntity_reseated (graph : Graph) (entity : Entity) :
    (graph.reseated rename functions).addEntity (entity.renamed rename) =
      (graph.addEntity entity).reseated rename functions := by
  simp [Graph.addEntity, Graph.reseated, Graph.nextEntity]

theorem addKeywords_reseated (graph : Graph) (home : NamespaceRef) (words : List String) :
    words.foldl (·.addFixed home ·) (graph.reseated rename functions) =
      (words.foldl (·.addFixed home ·) graph).reseated rename functions :=
  List.foldl_hom _ fun graph word => addEntity_reseated graph ⟨home, word, .fixed word⟩

/-- What has been built so far, with other handles for the naming functions. -/
def reseatedState (rename : FunctionRef → FunctionRef) (functions : Array NamingFunction)
    (state : Graph × Table .entities String) : Graph × Table .entities String :=
  (state.1.reseated rename functions, state.2)

theorem addMember_renamed (renames : directory.Renames rename renamed) (home : NamespaceRef)
    (state : Graph × Table .entities String) (member : MemberEntry) :
    addMember renamed home (reseatedState rename functions state) member =
      (addMember directory home state member).map (reseatedState rename functions) := by
  obtain ⟨graph, labels⟩ := state
  have next : (graph.reseated rename functions).nextEntity = graph.nextEntity := by
    simp [Graph.nextEntity, Graph.reseated]
  simp only [addMember, reseatedState, next, renames.entity, renames.members]
  apply except_map_bind
  intro entity
  split
  · rfl
  · rw [addEntity_reseated]
    rfl

theorem addNamespace_renamed (renames : directory.Renames rename renamed)
    (state : Graph × Table .entities String) (declared : NamespaceEntry × Nat) :
    addNamespace renamed (reseatedState rename functions state) declared =
      (addNamespace directory state declared).map (reseatedState rename functions) := by
  obtain ⟨graph, labels⟩ := state
  obtain ⟨entry, index⟩ := declared
  simp only [addNamespace, renames.request]
  apply except_bind_map
  intro request
  change entry.members.foldlM (addMember renamed graph.nextNamespace)
    (entry.keywords.foldl (·.addFixed graph.nextNamespace ·)
      ((graph.addNamespace request).reseated rename functions), labels) = _
  rw [addKeywords_reseated]
  exact except_foldlM_map (addMember_renamed renames graph.nextNamespace) (_, labels) entry.members

/-- What has been built, with other handles for the naming functions. -/
def reseatedBuilt (rename : FunctionRef → FunctionRef) (functions : Array NamingFunction)
    (built : BuiltManifest) : BuiltManifest :=
  { built with graph := built.graph.reseated rename functions }

theorem functionGraph_reseated (rename : FunctionRef → FunctionRef) (manifest again : Manifest)
    (filler other : Char) : again.functionGraph other =
      (manifest.functionGraph filler).reseated rename (again.functionGraph other).functions := by
  simp [functionGraph_eq, Graph.reseated]

/-- Counting fails only when nothing is asked for, which names no naming function. -/
theorem counting_renamed (rename : FunctionRef → FunctionRef) (filler : Char) :
    (Counting.names filler).renamed rename = Counting.names filler := by
  funext proposed forbidden count
  unfold NamingFunction.renamed Counting.names
  split <;> rfl

section Reorders
variable (reorders : Reorders rename manifest again filler other)
include reorders

/-- A name stands for the same naming function, under its other handle. -/
theorem Reorders.functionIds (name : String) : (again.functionIds other).get? name =
    ((manifest.functionIds filler).get? name).map rename := by
  have numbers := functionIds_numbers manifest filler
  have numbersToo := functionIds_numbers again other
  cases found : (manifest.functionIds filler).get? name with
  | some handle =>
    rw [Option.map_some, numbersToo, functionSlots, List.getElem?_map, reorders.moved,
      ← List.getElem?_map]
    exact (numbers name handle).mp found
  | none =>
    have absent : some name ∉ again.functionSlots other := fun listed =>
      numbers.absent found ((reorders.same.map _).mem_iff.mp listed)
    rw [Option.map_none, Option.eq_none_iff_forall_not_mem]
    exact fun handle known => absent (numbersToo.eq_position known).1

/-- The manifests are built alike, or refused for the same reason. -/
theorem Reorders.build : again.build other =
    (manifest.build filler).map
      (reseatedBuilt rename (again.functionGraph other).functions) := by
  have spaces : again.namespaceIds = manifest.namespaceIds := by
    rw [namespaceIds, namespaceIds, namespaceHandles, namespaceHandles, reorders.namespaces]
  have members : again.memberIds = manifest.memberIds := by
    rw [memberIds, memberIds, reorders.namespaces]
  rw [Manifest.build, Manifest.build, spaces, members]
  apply except_bind_map
  intro namespaces
  apply except_bind_map
  intro members
  have renames : Directory.Renames rename ⟨manifest.functionIds filler, namespaces, members⟩
      ⟨again.functionIds other, namespaces, members⟩ := ⟨reorders.functionIds, rfl, rfl⟩
  have folded : manifest.namespaces.zipIdx.foldlM
        (addNamespace ⟨again.functionIds other, namespaces, members⟩)
        (again.functionGraph other, .empty) =
      (manifest.namespaces.zipIdx.foldlM
        (addNamespace ⟨manifest.functionIds filler, namespaces, members⟩)
        (manifest.functionGraph filler, .empty)).map
          (reseatedState rename (again.functionGraph other).functions) := by
    rw [functionGraph_reseated rename manifest again filler other]
    exact except_foldlM_map (addNamespace_renamed renames) (_, .empty) _
  simp only [reorders.namespaces, folded]
  exact except_map_bind fun _ => rfl

/-- What is built has the same naming functions, under their other handles. -/
theorem Reorders.function? (ran : manifest.build filler = .ok built) (handle : FunctionRef) :
    (built.graph.reseated rename (again.functionGraph other).functions).function? (rename handle) =
      (built.graph.function? handle).map (NamingFunction.renamed rename) := by
  obtain ⟨-, shows, -⟩ := build_ok ran
  have counting : (NamingFunction.renamed rename ∘ fun entry : String × Char =>
      Counting.names entry.2) = fun entry => Counting.names entry.2 :=
    funext fun entry => counting_renamed rename entry.2
  simp only [Graph.function?, Graph.reseated, functionGraph_eq, List.getElem?_toArray,
    List.getElem?_map, reorders.moved]
  rw [← Array.getElem?_toList, shows.functions, List.getElem?_map, Option.map_map, counting]

end Reorders

/-- A naming run over what is built fails only for a conflict between members. -/
theorem taken_of_build (ran : manifest.build filler = .ok built)
    (failed : (built.resolve guarded).result = .error cause) :
    ∃ entity holder name, cause = .nameTaken entity holder name := by
  obtain ⟨fulfils, roots⟩ := build_fulfils ran
  rw [BuiltManifest.resolve, roots] at failed
  obtain ⟨-, call, -, nonempty, blames⟩ :=
    Attribution.resolve_blames fulfils.follows.linked fulfils.valid fulfils.known failed
  obtain ⟨-, -, entity, name, holder, -, -, rfl, -⟩ :=
    Attribution.taken_of_reliable nonempty (fun _ => fulfils.follows.reliable) blames
  exact ⟨_, _, _, rfl⟩

/-- What is built from manifests that differ in the order of their naming functions only is read and
named alike. -/
theorem Reorders.alike (reorders : Reorders rename manifest again filler other)
    (ran : manifest.build filler = .ok built) :
    ∃ rebuilt, again.build other = .ok rebuilt ∧ rebuilt.ids = built.ids ∧
      rebuilt.roots = built.roots ∧ (∀ handle, rebuilt.label handle = built.label handle) ∧
      ∀ guarded, (rebuilt.resolve guarded).result = (built.resolve guarded).result := by
  have renames (guarded : Bool) :=
    renames_reseated (reorders.function? ran) reorders.injective guarded
  refine ⟨reseatedBuilt rename (again.functionGraph other).functions built,
    by rw [reorders.build, ran]; rfl, rfl, rfl, ?_, ?_⟩
  · intro handle
    rw [BuiltManifest.label, BuiltManifest.label, reseatedBuilt, (renames false).label]
  · intro guarded
    have result : ((reseatedBuilt rename (again.functionGraph other).functions built).resolve
          guarded).result = (built.resolve guarded).result.mapError (Error.renamed rename) := by
      rw [BuiltManifest.resolve, reseatedBuilt, (renames guarded).resolve]
      rfl
    rw [result]
    cases ended : (built.resolve guarded).result with
    | ok resolution => rfl
    | error cause =>
      obtain ⟨entity, holder, name, rfl⟩ := taken_of_build ran ended
      rfl

/-! ### The naming function `default` -/

/-- The manifest with the naming function `default` declared. -/
def declareDefault (manifest : Manifest) (filler : Char) : Manifest :=
  { manifest with functions := manifest.functions.insert defaultFunction ⟨filler⟩ }

/-- The handles after the first one is moved to a place further behind. -/
def movedTo (place : Nat) (handle : FunctionRef) : FunctionRef :=
  ⟨if handle.index = 0 then place
    else if handle.index ≤ place then handle.index - 1
    else handle.index⟩

theorem movedTo_injective (place : Nat) : Function.Injective (movedTo place) := by
  intro first second same
  apply Handle.ext_index
  have index := congrArg Handle.index same
  dsimp only [movedTo] at index
  split_ifs at index <;> omega

theorem getElem?_movedTo {items : List α} (within : place ≤ items.length) (item : α)
    (handle : FunctionRef) : (items.insertIdx place item)[(movedTo place handle).index]? =
      (item :: items)[handle.index]? := by
  obtain ⟨index⟩ := handle
  rw [List.getElem?_insertIdx]
  cases index with
  | zero => simp [movedTo, within]
  | succ index =>
    rw [List.getElem?_cons_succ]
    by_cases before : index < place
    · have moved : (movedTo place ⟨index + 1⟩).index = index := by simp [movedTo]; omega
      rw [moved, if_pos before]
    · have kept : (movedTo place ⟨index + 1⟩).index = index + 1 := by simp [movedTo]; omega
      rw [kept, if_neg (by omega), if_neg (by omega), Nat.add_sub_cancel]

theorem reorders_declareDefault
    (undeclared : manifest.functions.contains defaultFunction = false) (filler other : Char) :
    ∃ place, Reorders (movedTo place) manifest (manifest.declareDefault filler) filler other := by
  have absent : defaultFunction ∉ manifest.functions.entries.map Prod.fst := by
    rw [← NameMap.contains_iff, undeclared]
    exact Bool.false_ne_true
  obtain ⟨place, within, placed⟩ :=
    NameMap.insertEntry_eq_insertIdx absent (CountingEntry.mk filler)
  have declared : (manifest.declareDefault filler).functions.contains defaultFunction = true := by
    rw [declareDefault, NameMap.contains, NameMap.get?_insert, if_pos rfl]
    rfl
  have before : manifest.fillers filler = (defaultFunction, filler) ::
      manifest.functions.entries.map fun entry => (entry.1, entry.2.filler) := by
    simp only [fillers, undeclared, Bool.false_eq_true, if_false]
  have after : (manifest.declareDefault filler).fillers other =
      (manifest.functions.entries.map fun entry => (entry.1, entry.2.filler)).insertIdx place
        (defaultFunction, filler) := by
    simp only [fillers, declared, if_true]
    simp only [declareDefault, NameMap.insert, placed, List.map_insertIdx]
  rw [← List.length_map fun entry => (entry.1, entry.2.filler)] at within
  refine ⟨place, movedTo_injective place, rfl, ?_, ?_⟩
  · rw [before, after]
    exact List.perm_insertIdx _ _ within
  · intro handle
    rw [before, after]
    exact getElem?_movedTo within _ handle

/-- **A naming function `default` that is not declared is as good as a declared one.** If `default`
is declared with the filler that it has undeclared, the manifests are refused for the same reason,
or both are built, with the same handles for members and namespaces. Then they are named alike in
both modes: with the same names, the same entities left over and as many rounds, or with the same
conflict. -/
theorem implicit_default_is_declared_default (manifest : Manifest) (filler other : Char)
    (undeclared : manifest.functions.contains defaultFunction = false) :
    (∃ cause, manifest.build filler = .error cause ∧
      (manifest.declareDefault filler).build other = .error cause) ∨
    ∃ built declared, manifest.build filler = .ok built ∧
      (manifest.declareDefault filler).build other = .ok declared ∧
      declared.ids = built.ids ∧ declared.roots = built.roots ∧
      (∀ handle, declared.label handle = built.label handle) ∧
      ∀ guarded, (declared.resolve guarded).result = (built.resolve guarded).result := by
  obtain ⟨place, reorders⟩ := reorders_declareDefault undeclared filler other
  cases ran : manifest.build filler with
  | error cause => exact .inl ⟨cause, rfl, by rw [reorders.build, ran]; rfl⟩
  | ok built =>
    obtain ⟨declared, again, alike⟩ := reorders.alike ran
    exact .inr ⟨built, declared, rfl, again, alike⟩

/-- A manifest whose one declared naming function comes before `default` in the order of names. -/
def tinted : Manifest where
  functions := .insert .empty "alpha" ⟨'a'⟩
  namespaces := [{ name := "fields", forbidsSelf := true, keywords := ["type"], members := [
    ⟨"plain", .simple "type" none⟩,
    ⟨"tinted", .simple "type" (some "alpha")⟩,
    ⟨"both", .dependent ["plain", "tinted"] "\x7b0\x7d\x7b1\x7d" none⟩] }]

/-- The naming function `default` gets another handle when it is declared, and gives the same
names. -/
theorem tinted_declares_default :
    (tinted.functionIds '_').get? defaultFunction = some ⟨0⟩ ∧
    ((tinted.declareDefault '_').functionIds 'x').get? defaultFunction = some ⟨1⟩ ∧
    ∃ built declared, tinted.build '_' = .ok built ∧
      (tinted.declareDefault '_').build 'x' = .ok declared ∧
      ∃ resolution, (built.resolve false).result = .ok resolution ∧
        (declared.resolve false).result = .ok resolution ∧
        resolution.names.get? ⟨3⟩ = some "type_typea" := by
  refine ⟨by decide +kernel, by decide +kernel, ?_⟩
  obtain ⟨built, ran, named⟩ := exists_ok_of_any (tinted.build '_')
    (fun built => (built.resolve false).result.toOption.any
      (·.names.get? ⟨3⟩ == some "type_typea")) (by decide +kernel)
  obtain ⟨resolution, resolved, shown⟩ := exists_ok_of_any _ _ named
  rcases implicit_default_is_declared_default tinted '_' 'x' rfl with
    ⟨cause, failed, -⟩ | ⟨same, declared, first, second, -, -, -, alike⟩
  · rw [ran] at failed
    cases failed
  · obtain rfl : built = same := Except.ok.inj (ran.symm.trans first)
    exact ⟨built, declared, ran, second, resolution, resolved, (alike false).trans resolved,
      beq_iff_eq.mp shown⟩

end Manifest

end NameAssignment
