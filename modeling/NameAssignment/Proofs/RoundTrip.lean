import Mathlib.Data.List.Sort
import NameAssignment.Manifest.Decode
import NameAssignment.Manifest.Encode
import NameAssignment.Proofs.Handles
import NameAssignment.Proofs.Positions

/-! The document that describes a manifest is read back as that manifest. Each record is written as
a table that leaves some of its fields out, and for each field that is left out the reader falls
back on the very value for which the writer leaves it out. -/
namespace NameAssignment

namespace NameMap
variable {α : Type}

theorem mem_entries_iff {map : NameMap α} :
    (key, value) ∈ map.entries ↔ map.get? key = some value :=
  (lookup_eq_some_iff_mem map.nodup_keys).symm

/-- Maps with the same look-ups are equal: both list their entries in increasing order of keys. -/
theorem eq_of_get? {first second : NameMap α}
    (same : ∀ key, first.get? key = second.get? key) : first = second := by
  have irreflexive : Std.Irrefl fun earlier later : String × α => earlier.1 < later.1 :=
    ⟨fun entry => String.lt_irrefl entry.1⟩
  have antisymmetric : Std.Antisymm fun earlier later : String × α => earlier.1 < later.1 :=
    ⟨fun _ _ below above => absurd (String.lt_trans below above) (String.lt_irrefl _)⟩
  have listed : first.entries = second.entries := by
    apply first.increasing.eq_of_mem_iff second.increasing
    rintro ⟨key, value⟩
    rw [mem_entries_iff, mem_entries_iff, same]
  obtain ⟨entries, increasing⟩ := first
  obtain rfl : entries = second.entries := listed
  rfl

/-- A map is made again from its own entries. -/
theorem ofList_entries (map : NameMap α) : ofList map.entries = map := by
  apply eq_of_get?
  intro key
  apply Option.ext
  intro value
  exact ⟨fun found => mem_entries_iff.mp (mem_of_get?_ofList found),
    fun found => get?_ofList map.nodup_keys (mem_entries_iff.mpr found)⟩

end NameMap

namespace Document

/-! ### Records that leave fields out -/

/-- The fields of a record that have a value; the others are left out. -/
def present (shape : List (String × Option Document)) : List (String × Document) :=
  shape.filterMap fun (name, value) => value.map (name, ·)

variable {shape : List (String × Option Document)}

theorem present_append (first second : List (String × Option Document)) :
    present (first ++ second) = present first ++ present second :=
  List.filterMap_append

theorem ifPresent_eq (name : String) (value : Option String) :
    ifPresent name value = present [(name, value.map .text)] := by
  cases value <;> rfl

/-- A list as the value of a field, which is left out if it is empty. -/
def unlessNil (items : List Document) : Option Document :=
  if items.isEmpty then none else some (.list items)

theorem unlessEmpty_eq (name : String) (items : List Document) :
    unlessEmpty name items = present [(name, unlessNil items)] := by
  cases items <;> rfl

theorem mem_present_iff : (name, document) ∈ present shape ↔ (name, some document) ∈ shape := by
  rw [present, List.mem_filterMap]
  constructor
  · rintro ⟨⟨name, value⟩, there, given⟩
    obtain ⟨document, rfl, same⟩ := Option.map_eq_some_iff.mp given
    cases same
    exact there
  · intro there
    exact ⟨(name, some document), there, rfl⟩

theorem keys_present (shape : List (String × Option Document)) :
    ((present shape).map Prod.fst).Sublist (shape.map Prod.fst) := by
  induction shape with
  | nil => exact .slnil
  | cons field rest ih =>
    obtain ⟨name, _ | value⟩ := field
    · exact ih.cons name
    · exact ih.cons_cons name

/-- In a record each field is looked up to its own value. -/
theorem lookup_present (named : shape.map Prod.fst = names) (once : names.Nodup)
    (listed : (name, value) ∈ shape) : (present shape).lookup name = value := by
  subst named
  apply Option.ext
  intro document
  rw [lookup_eq_some_iff_mem (once.sublist (keys_present shape)), mem_present_iff]
  constructor
  · intro there
    have same : (name, value) = (name, some document) :=
      List.inj_on_of_nodup_map once listed there rfl
    exact (Prod.mk.inj same).2
  · rintro rfl
    exact listed

/-- A record is read from the table that it is written as, whatever the policy. -/
theorem record?_present (policy : RecordPolicy) (named : shape.map Prod.fst = names)
    (once : names.Nodup) :
    record? policy names (.table (present shape)) = some (present shape) := by
  subst named
  have keys := keys_present shape
  have known : (present shape).filter (fun field => (shape.map Prod.fst).contains field.1) =
      present shape := by
    apply List.filter_eq_self.mpr
    intro field listed
    simpa using keys.subset (List.mem_map_of_mem listed)
  simp only [record?, known, ne_eq, not_true_eq_false, and_false, if_false,
    if_pos (once.sublist keys)]

/-! ### Reading the fields of a record -/

theorem required?_eq (found : fields.lookup name = some document) (read : Document → Option α) :
    required? fields name read = read document := by
  rw [required?, found]
  rfl

theorem defaulted?_eq (found : fields.lookup name = some document) (read : Document → Option α)
    (fallback : α) : defaulted? fields name read fallback = read document := by
  rw [defaulted?, found]

/-- A text that may be absent is left out exactly where its reader takes it for absent. -/
theorem nullable?_text {value : Option String}
    (found : fields.lookup name = value.map .text) : nullable? fields name text? = some value := by
  rw [nullable?, found]
  cases value <;> rfl

theorem mapM_map_eq_some {read : β → Option α} {write : α → β} {items : List α}
    (faithful : ∀ item ∈ items, read (write item) = some item) :
    (items.map write).mapM read = some items := by
  induction items with
  | nil => rfl
  | cons item rest ih =>
    obtain ⟨here, later⟩ := List.forall_mem_cons.mp faithful
    rw [List.map_cons, List.mapM_cons, here, ih later]
    rfl

theorem listOf?_list {read : Document → Option α} {write : α → Document} {items : List α}
    (faithful : ∀ item ∈ items, read (write item) = some item) :
    listOf? read (.list (items.map write)) = some items :=
  mapM_map_eq_some faithful

/-- A list is left out exactly where it is what its reader falls back on. -/
theorem defaulted?_list {read : Document → Option α} {write : α → Document} {items : List α}
    (found : fields.lookup name = unlessNil (items.map write))
    (faithful : ∀ item ∈ items, read (write item) = some item) :
    defaulted? fields name (listOf? read) [] = some items := by
  rw [defaulted?, found]
  cases items with
  | nil => rfl
  | cons item rest => exact listOf?_list faithful

theorem defaulted?_texts {values : List String}
    (found : fields.lookup name = unlessNil (values.map .text)) :
    defaulted? fields name texts? [] = some values :=
  defaulted?_list found fun _ _ => rfl

theorem texts?_texts (values : List String) : texts? (texts values) = some values :=
  listOf?_list fun _ _ => rfl

theorem character?_singleton (letter : Char) :
    character? (.text (String.singleton letter)) = some letter := by
  simp [character?, text?]

end Document

open Document

/-! ### Naming functions -/

/-- The only field of a naming function, which is always written. -/
def CountingEntry.shape (entry : CountingEntry) : List (String × Option Document) :=
  [("filler", some (.text (String.singleton entry.filler)))]

theorem CountingEntry.toDocument_eq (entry : CountingEntry) :
    entry.toDocument = .table (present entry.shape) := rfl

theorem CountingEntry.read_toDocument (format : DocumentFormat) (entry : CountingEntry) :
    ofDocument? format entry.toDocument = some entry := by
  have fields : record? format.entryPolicy ["filler"] (.table (present entry.shape)) =
      some (present entry.shape) := record?_present _ rfl (by decide)
  have filler : defaulted? (present entry.shape) "filler" character? Counting.defaultFiller =
      some entry.filler := character?_singleton entry.filler
  rw [toDocument_eq, ofDocument?, fields]
  simp only [filler, Option.bind_eq_bind, Option.bind_some, Option.pure_def]

/-! ### Members -/

/-- The kind that a member is tagged with. -/
def MemberSource.kind : MemberSource → String
  | .fixed .. => "fixed"
  | .simple .. => "simple"
  | .dependent .. => "dependent"

/-- The fields of a member beside its kind; a naming function that is left open is left out. -/
def MemberEntry.shape (entry : MemberEntry) : List (String × Option Document) :=
  ("id", some (.text entry.id)) :: match entry.source with
    | .fixed name => [("name", some (.text name))]
    | .simple propose function =>
      [("propose", some (.text propose)), ("namer", function.map .text)]
    | .dependent depends template function =>
      [("depends", some (texts depends)), ("template", some (.text template)),
        ("namer", function.map .text)]

theorem MemberEntry.toDocument_eq (entry : MemberEntry) :
    entry.toDocument = .table (("kind", .text entry.source.kind) :: present entry.shape) := by
  obtain ⟨id, source⟩ := entry
  cases source with
  | fixed name => rfl
  | simple propose function => cases function <;> rfl
  | dependent depends template function => cases function <;> rfl

/-- The tag of a member is told from its fields, none of which is called like it. -/
theorem splitKind?_table (kind : String) (untagged : ∀ field ∈ fields, field.1 ≠ "kind") :
    splitKind? (.table (("kind", .text kind) :: fields)) = some (kind, .table fields) := by
  have tag : (("kind", .text kind) :: fields).filter (·.1 = "kind") = [("kind", .text kind)] := by
    simpa using untagged
  have body : (("kind", Document.text kind) :: fields).filter (·.1 ≠ "kind") = fields := by
    simpa using untagged
  simp only [splitKind?, tag, body]

theorem MemberEntry.untagged (entry : MemberEntry) :
    ∀ field ∈ present entry.shape, field.1 ≠ "kind" := by
  have named : "kind" ∉ entry.shape.map Prod.fst := by
    obtain ⟨id, source⟩ := entry
    cases source <;> simp [shape]
  intro field listed same
  exact named (same ▸ (keys_present entry.shape).subset (List.mem_map_of_mem listed))

/-- Each kind of member is read by the fields of that kind. -/
theorem MemberEntry.read_toDocument (entry : MemberEntry) :
    ofDocument? entry.toDocument = some entry := by
  rw [toDocument_eq, ofDocument?, splitKind?_table _ entry.untagged]
  obtain ⟨id, source⟩ := entry
  cases source with
  | fixed name =>
    have named : (shape ⟨id, .fixed name⟩).map Prod.fst = ["id", "name"] := rfl
    have once : ["id", "name"].Nodup := by decide
    have idGiven := lookup_present named once (.head _)
    have nameGiven := lookup_present named once (.tail _ (.head _))
    simp only [MemberSource.kind, record?_present memberPolicy named once, required?_eq idGiven,
      required?_eq nameGiven, text?, Option.bind_eq_bind, Option.bind_some, Option.pure_def]
  | simple propose function =>
    have named : (shape ⟨id, .simple propose function⟩).map Prod.fst =
        ["id", "propose", "namer"] := rfl
    have once : ["id", "propose", "namer"].Nodup := by decide
    have idGiven := lookup_present named once (.head _)
    have proposeGiven := lookup_present named once (.tail _ (.head _))
    have functionGiven := lookup_present named once (.tail _ (.tail _ (.head _)))
    simp only [MemberSource.kind, record?_present memberPolicy named once, required?_eq idGiven,
      required?_eq proposeGiven, nullable?_text functionGiven, text?, Option.bind_eq_bind,
      Option.bind_some, Option.pure_def]
  | dependent depends template function =>
    have named : (shape ⟨id, .dependent depends template function⟩).map Prod.fst =
        ["id", "depends", "template", "namer"] := rfl
    have once : ["id", "depends", "template", "namer"].Nodup := by decide
    have idGiven := lookup_present named once (.head _)
    have dependsGiven := lookup_present named once (.tail _ (.head _))
    have templateGiven := lookup_present named once (.tail _ (.tail _ (.head _)))
    have functionGiven := lookup_present named once (.tail _ (.tail _ (.tail _ (.head _))))
    simp only [MemberSource.kind, record?_present memberPolicy named once, required?_eq idGiven,
      required?_eq dependsGiven, texts?_texts, required?_eq templateGiven,
      nullable?_text functionGiven, text?, Option.bind_eq_bind, Option.bind_some, Option.pure_def]

/-! ### Namespaces -/

/-- The fields of a namespace, some of which may be left out. -/
def NamespaceEntry.shape (entry : NamespaceEntry) : List (String × Option Document) :=
  [("name", some (.text entry.name)), ("parent", entry.parent.map .text),
    ("forbid", unlessNil (entry.forbidden.map .text)),
    ("forbid_self", some (.truth entry.forbidsSelf)),
    ("keywords", unlessNil (entry.keywords.map .text)),
    ("members", unlessNil (entry.members.map MemberEntry.toDocument))]

theorem NamespaceEntry.toDocument_eq (entry : NamespaceEntry) :
    entry.toDocument = .table (present entry.shape) := by
  simp only [toDocument, ifPresent_eq, unlessEmpty_eq]
  have name : [("name", text entry.name)] = present [("name", some (.text entry.name))] := rfl
  have self : [("forbid_self", truth entry.forbidsSelf)] =
    present [("forbid_self", some (.truth entry.forbidsSelf))] := rfl
  rw [name, self]
  simp only [← present_append]
  rfl

theorem NamespaceEntry.read_toDocument (format : DocumentFormat) (entry : NamespaceEntry) :
    ofDocument? format entry.toDocument = some entry := by
  have named : entry.shape.map Prod.fst =
      ["name", "parent", "forbid", "forbid_self", "keywords", "members"] := rfl
  have once : ["name", "parent", "forbid", "forbid_self", "keywords", "members"].Nodup := by
    decide
  have given {name value} (listed : (name, value) ∈ entry.shape) :
      (present entry.shape).lookup name = value := lookup_present named once listed
  have name : (present entry.shape).lookup "name" = some (.text entry.name) :=
    given (by simp [shape])
  have parent : (present entry.shape).lookup "parent" = entry.parent.map .text :=
    given (by simp [shape])
  have forbidden : (present entry.shape).lookup "forbid" =
      unlessNil (entry.forbidden.map .text) := given (by simp [shape])
  have forbidsSelf : (present entry.shape).lookup "forbid_self" =
      some (.truth entry.forbidsSelf) := given (by simp [shape])
  have keywords : (present entry.shape).lookup "keywords" =
      unlessNil (entry.keywords.map .text) := given (by simp [shape])
  have members : (present entry.shape).lookup "members" =
      unlessNil (entry.members.map MemberEntry.toDocument) := given (by simp [shape])
  rw [toDocument_eq, ofDocument?, record?_present _ named once]
  simp only [required?_eq name, text?, nullable?_text parent, defaulted?_texts forbidden,
    defaulted?_eq forbidsSelf, truth?, defaulted?_texts keywords,
    defaulted?_list members fun member _ => member.read_toDocument, Option.bind_eq_bind,
    Option.bind_some, Option.pure_def]

/-! ### Manifests -/

/-- Naming functions as a table. -/
def functionTable (functions : NameMap CountingEntry) : Document :=
  .table (functions.entries.map fun entry => (entry.1, entry.2.toDocument))

/-- The table of naming functions, which is left out if there are none. -/
def Manifest.functionsField (manifest : Manifest) : Option Document :=
  if manifest.functions.isEmpty then none else some (functionTable manifest.functions)

/-- The fields of a manifest. The list of namespaces is written even if it is empty. -/
def Manifest.shape (manifest : Manifest) : List (String × Option Document) :=
  [("namers", manifest.functionsField),
    ("namespace", some (.list (manifest.namespaces.map NamespaceEntry.toDocument)))]

theorem Manifest.toDocument_eq (manifest : Manifest) :
    manifest.toDocument = .table (present manifest.shape) := by
  obtain ⟨⟨entries, increasing⟩, namespaces⟩ := manifest
  cases entries <;> rfl

theorem read_functionTable (format : DocumentFormat) (functions : NameMap CountingEntry) :
    functionsOfDocument? format (functionTable functions) = some functions := by
  have entries : (functions.entries.map fun entry => (entry.1, entry.2.toDocument)).mapM
      (fun field => (CountingEntry.ofDocument? format field.2).bind fun entry =>
        some (field.1, entry)) = some functions.entries := by
    apply mapM_map_eq_some
    intro entry listed
    rw [CountingEntry.read_toDocument, Option.bind_some]
  simp only [functionsOfDocument?, functionTable, table?, Option.bind_eq_bind, Option.bind_some,
    Option.pure_def, entries, NameMap.ofList_entries]

/-- The naming functions are read back from their table or from its absence. -/
theorem Manifest.read_functions (format : DocumentFormat) {manifest : Manifest}
    (found : fields.lookup "namers" = manifest.functionsField) :
    defaulted? fields "namers" (functionsOfDocument? format) .empty = some manifest.functions := by
  by_cases absent : manifest.functions.isEmpty = true
  · rw [defaulted?, found, functionsField, if_pos absent]
    obtain ⟨⟨entries, increasing⟩, namespaces⟩ := manifest
    obtain rfl : entries = [] := List.isEmpty_iff.mp absent
    rfl
  · rw [functionsField, if_neg absent] at found
    rw [defaulted?_eq found, read_functionTable]

theorem Manifest.read_toDocument (format : DocumentFormat) (manifest : Manifest) :
    ofDocument? format manifest.toDocument = some manifest := by
  have named : manifest.shape.map Prod.fst = ["namers", "namespace"] := rfl
  have once : ["namers", "namespace"].Nodup := by decide
  have functions := lookup_present named once (.head _)
  have namespaces := lookup_present named once (.tail _ (.head _))
  have entries := listOf?_list fun entry (_ : entry ∈ manifest.namespaces) =>
    entry.read_toDocument format
  rw [toDocument_eq, ofDocument?, record?_present _ named once]
  simp only [read_functions format functions, defaulted?_eq namespaces, entries,
    Option.bind_eq_bind, Option.bind_some, Option.pure_def]

/-- **A manifest is read back from the document that describes it**, in either format; so a document
that is accepted is read as before once it has been read and written again. What is left out of the
written document are the naming functions if there are none, the empty lists of a namespace but not
its mark, a parent and a naming function that are absent; a member is tagged with its kind, and a
filler is a text of one letter. -/
theorem manifest_documents_round_trip (format : DocumentFormat) :
    (∀ manifest : Manifest, Manifest.ofDocument? format manifest.toDocument = some manifest) ∧
    (∀ document, ((Manifest.ofDocument? format document).map Manifest.toDocument).bind
      (Manifest.ofDocument? format) = Manifest.ofDocument? format document) ∧
    (∀ manifest : Manifest, manifest.toDocument = .table (present manifest.shape)) ∧
    (∀ entry : NamespaceEntry, entry.toDocument = .table (present entry.shape)) ∧
    (∀ entry : MemberEntry,
      entry.toDocument = .table (("kind", .text entry.source.kind) :: present entry.shape)) ∧
    (∀ entry : CountingEntry, entry.toDocument = .table (present entry.shape)) := by
  refine ⟨Manifest.read_toDocument format, ?_, Manifest.toDocument_eq,
    NamespaceEntry.toDocument_eq, MemberEntry.toDocument_eq, CountingEntry.toDocument_eq⟩
  intro document
  cases read : Manifest.ofDocument? format document with
  | none => rfl
  | some manifest => exact Manifest.read_toDocument format manifest

end NameAssignment
