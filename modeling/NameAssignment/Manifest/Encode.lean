import NameAssignment.Document
import NameAssignment.Manifest

/-!
From a manifest to the document that describes it. What is empty or absent is left out, but for
the list of namespaces and the mark of a namespace that forbids itself.
-/

namespace NameAssignment

/-- A field that is left out if its list is empty. -/
def Document.unlessEmpty (name : String) (items : List Document) : List (String × Document) :=
  if items.isEmpty then [] else [(name, .list items)]

/-- A field that is left out if its text is absent. -/
def Document.ifPresent (name : String) : Option String → List (String × Document)
  | none => []
  | some value => [(name, .text value)]

open Document

def CountingEntry.toDocument (entry : CountingEntry) : Document :=
  .table [("filler", .text (String.singleton entry.filler))]

def MemberEntry.toDocument (entry : MemberEntry) : Document :=
  match entry.source with
  | .fixed name =>
    .table [("kind", .text "fixed"), ("id", .text entry.id), ("name", .text name)]
  | .simple propose function =>
    .table ([("kind", .text "simple"), ("id", .text entry.id), ("propose", .text propose)]
      ++ ifPresent "namer" function)
  | .dependent depends template function =>
    .table ([("kind", .text "dependent"), ("id", .text entry.id), ("depends", texts depends),
      ("template", .text template)] ++ ifPresent "namer" function)

def NamespaceEntry.toDocument (entry : NamespaceEntry) : Document :=
  .table ([("name", .text entry.name)]
    ++ ifPresent "parent" entry.parent
    ++ unlessEmpty "forbid" (entry.forbidden.map .text)
    ++ [("forbid_self", .truth entry.forbidsSelf)]
    ++ unlessEmpty "keywords" (entry.keywords.map .text)
    ++ unlessEmpty "members" (entry.members.map MemberEntry.toDocument))

def Manifest.toDocument (manifest : Manifest) : Document :=
  let functions := manifest.functions.entries.map fun (name, entry) => (name, entry.toDocument)
  .table ((if functions.isEmpty then [] else [("namers", .table functions)])
    ++ [("namespace", .list (manifest.namespaces.map NamespaceEntry.toDocument))])

end NameAssignment
