import NameAssignment.Proofs.Building

/-! A manifest is built exactly and faithfully. It builds if and only if nothing in it is at fault,
and everything in what is built can be read off the manifest. -/
namespace NameAssignment.Faithfulness
open Manifest

/-- How a declared namespace is shown by its record. -/
structure Displays (manifest : Manifest) (handle : NamespaceRef) (entry : NamespaceEntry)
    (space : Namespace) : Prop where
  name : space.name = entry.name
  parent : space.parent = entry.parent.map manifest.spaceRef
  /-- The namespaces that name it as their parent, in order of declaration. -/
  children : space.children = handlesWhere
    (fun other => other.parent.map manifest.spaceRef = some handle) manifest.namespaces
  /-- What is declared in it, in order of declaration. -/
  members : space.members = handlesWhere (fun item => item.1 = handle)
    (population manifest.namespaces.zipIdx)
  /-- What it is declared to forbid, each where it is first mentioned, and then perhaps itself. -/
  forbidden : space.forbidden.toList =
    let listed := (entry.forbidden.map manifest.spaceRef).eraseDups
    if entry.forbidsSelf = true ∧ handle ∉ listed then listed ++ [handle] else listed

/-- What is built from a manifest shows all that it declares and nothing else. -/
structure Depicts (manifest : Manifest) (filler : Char) (built : BuiltManifest) : Prop where
  valid : built.graph.validate = .ok ()
  roots : built.roots = built.graph.roots
  /-- Every declared namespace is below the roots, once. -/
  forest : ∃ forest, built.graph.flatten built.roots = .ok forest ∧ forest.Nodup ∧
    ∀ handle, handle ∈ forest ↔ handle.index < manifest.namespaces.length
  functions : built.graph.functions.toList =
    (manifest.fillers filler).map fun entry => Counting.names entry.2
  count : built.graph.namespaces.size = manifest.namespaces.length
  spaces : ∀ handle entry, manifest.namespaces[handle.index]? = some entry →
    ∃ space, built.graph.namespace? handle = some space ∧ Displays manifest handle entry space
  entities : built.graph.entities.toList =
    (population manifest.namespaces.zipIdx).map (manifest.entityOf filler)
  /-- An id is looked up to the handle of the member that is declared with it. -/
  lookup : ∀ key handle, built.ids.get? key = some handle ↔ ∃ home member,
    (population manifest.namespaces.zipIdx)[handle.index]? = some (home, .member member) ∧
      member.id = key
  label : ∀ handle item, (population manifest.namespaces.zipIdx)[handle.index]? = some item →
    built.label handle = item.2.label

variable {manifest : Manifest} {filler : Char}

theorem depicts_of_build (ran : manifest.build filler = .ok built) :
    Depicts manifest filler built := by
  obtain ⟨-, shows, numbers⟩ := build_ok ran
  obtain ⟨fulfils, roots⟩ := build_fulfils ran
  exact {
    valid := Graph.validate_ok_iff.mpr fulfils.valid
    roots := by rw [roots, shows.roots]
    forest := by
      obtain ⟨forest, flattened, -, -, there⟩ := Graph.flatten_of_known fulfils.follows.linked
        fulfils.known
      refine ⟨forest, by rw [roots]; exact flattened, Graph.nodup_flatten flattened, ?_⟩
      intro handle
      rw [← shows.count, ← Graph.namespace?_isSome_iff]
      exact ⟨there handle, fulfils.covered flattened handle⟩
    functions := shows.functions
    count := shows.count
    spaces := by
      intro handle entry found
      refine ⟨_, by rw [shows.spaces, found]; rfl, ?_⟩
      exact ⟨rfl, rfl, rfl, rfl, toList_avoided handle entry⟩
    entities := shows.entities
    lookup := by
      intro key handle
      rw [numbers, memberSlots_eq, List.getElem?_map, Option.map_eq_some_iff]
      constructor
      · rintro ⟨⟨home, _ | member⟩, found, same⟩
        · cases same
        · cases same
          exact ⟨home, member, found, rfl⟩
      · rintro ⟨home, member, found, rfl⟩
        exact ⟨_, found, rfl⟩
    label := by
      intro handle item found
      rw [BuiltManifest.label, Graph.label, shows.labels, shows.entity?_eq, found]
      obtain ⟨home, text | member⟩ := item <;> rfl }

/-- **Building a manifest is exact and faithful.** A manifest builds exactly if it is well formed,
whatever the filler is, and never because a member got another handle than the one foreseen; and
what is built shows what is declared. -/
theorem build_is_exact_and_faithful (manifest : Manifest) (filler : Char) :
    ((∃ built, manifest.build filler = .ok built) ↔ manifest.WellFormed) ∧
      (∀ key, manifest.build filler ≠ .error (.manifest (.outOfOrder key))) ∧
      ∀ built, manifest.build filler = .ok built → Depicts manifest filler built := by
  refine ⟨⟨?_, ?_⟩, ?_, fun built => depicts_of_build⟩
  · rintro ⟨built, ran⟩
    exact (build_ok ran).1
  · intro formed
    cases ran : manifest.build filler with
    | ok built => exact ⟨built, rfl⟩
    | error cause => exact absurd (build_blames ran) formed.blameless
  · intro key failed
    cases build_blames failed

/-- Reserved words in two namespaces, and a dependency that points ahead of them. -/
def program : Manifest where
  functions := .insert .empty "short" ⟨'-'⟩
  namespaces := [
    { name := "words", forbidsSelf := true, keywords := ["type"] },
    { name := "types", forbidden := ["values", "words", "values"],
      members := [⟨"Node", .dependent ["next"] "\x7b0\x7dNode" none⟩] },
    { name := "values", parent := some "types", keywords := ["self"],
      members := [⟨"next", .simple "next" (some "short")⟩] }]

/-- The dependency is found behind the reserved words, and each entity is shown as declared. -/
theorem program_is_depicted : ∃ built, program.build '_' = .ok built ∧ program.WellFormed ∧
    Depicts program '_' built ∧ built.ids.get? "next" = some ⟨3⟩ ∧ built.label ⟨2⟩ = "self" := by
  obtain ⟨built, ran, -⟩ := exists_ok_of_any (program.build '_') (fun _ => true) (by decide +kernel)
  obtain ⟨accepted, -, faithful⟩ := build_is_exact_and_faithful program '_'
  have depicts := faithful built ran
  exact ⟨built, ran, accepted.mp ⟨built, ran⟩, depicts, (depicts.lookup _ _).mpr ⟨_, _, rfl, rfl⟩,
    depicts.label ⟨2⟩ _ rfl⟩

end NameAssignment.Faithfulness
