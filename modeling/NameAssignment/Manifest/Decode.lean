import NameAssignment.Document.Record
import NameAssignment.Error
import NameAssignment.Manifest

/-!
From a document to the manifest it describes.

The manifest, its naming functions and its namespaces refuse keys that they do not know; members
pass them over. A member says what kind it is in its field `kind`, or in its first place if it is
written as a list. The two formats differ in one point: in TOML a naming function or a namespace
that is written as a list may have spare values at its end.
-/

namespace NameAssignment

open Document

/-- The rule for naming functions and namespaces. -/
def DocumentFormat.entryPolicy : DocumentFormat → RecordPolicy
  | .toml => ⟨true, false⟩
  | .json => ⟨true, true⟩

/-- The rule for members. -/
def memberPolicy : RecordPolicy := ⟨false, true⟩

def CountingEntry.ofDocument? (format : DocumentFormat) (document : Document) :
    Option CountingEntry := do
  let fields ← document.record? format.entryPolicy ["filler"]
  return ⟨← defaulted? fields "filler" character? Counting.defaultFiller⟩

/-- The kind a member says it is, and the member without it. -/
def splitKind? : Document → Option (String × Document)
  | .table fields =>
    match fields.filter (·.1 = "kind") with
    | [(_, .text kind)] => some (kind, .table (fields.filter (·.1 ≠ "kind")))
    | _ => none
  | .list (.text kind :: rest) => some (kind, .list rest)
  | _ => none

def MemberEntry.ofDocument? (document : Document) : Option MemberEntry := do
  let (kind, body) ← splitKind? document
  match kind with
  | "fixed" =>
    let fields ← body.record? memberPolicy ["id", "name"]
    let id ← required? fields "id" text?
    return ⟨id, .fixed (← required? fields "name" text?)⟩
  | "simple" =>
    let fields ← body.record? memberPolicy ["id", "propose", "namer"]
    let id ← required? fields "id" text?
    let propose ← required? fields "propose" text?
    return ⟨id, .simple propose (← nullable? fields "namer" text?)⟩
  | "dependent" =>
    let fields ← body.record? memberPolicy ["id", "depends", "template", "namer"]
    let id ← required? fields "id" text?
    let depends ← required? fields "depends" texts?
    let template ← required? fields "template" text?
    return ⟨id, .dependent depends template (← nullable? fields "namer" text?)⟩
  | _ => none

def NamespaceEntry.ofDocument? (format : DocumentFormat) (document : Document) :
    Option NamespaceEntry := do
  let fields ← document.record? format.entryPolicy
    ["name", "parent", "forbid", "forbid_self", "keywords", "members"]
  let name ← required? fields "name" text?
  let parent ← nullable? fields "parent" text?
  let forbidden ← defaulted? fields "forbid" texts? []
  let forbidsSelf ← defaulted? fields "forbid_self" truth? false
  let keywords ← defaulted? fields "keywords" texts? []
  let members ← defaulted? fields "members" (listOf? MemberEntry.ofDocument?) []
  return { name, parent, forbidden, forbidsSelf, keywords, members }

/-- A table of naming functions. Of two with one name the later counts. -/
def functionsOfDocument? (format : DocumentFormat) (document : Document) :
    Option (NameMap CountingEntry) := do
  let entries ← (← document.table?).mapM fun (name, value) => do
    return (name, ← CountingEntry.ofDocument? format value)
  return .ofList entries

def Manifest.ofDocument? (format : DocumentFormat) (document : Document) : Option Manifest := do
  let fields ← document.record? ⟨true, true⟩ ["namers", "namespace"]
  let functions ← defaulted? fields "namers" (functionsOfDocument? format) .empty
  let namespaces ← defaulted? fields "namespace" (listOf? (NamespaceEntry.ofDocument? format)) []
  return ⟨functions, namespaces⟩

end NameAssignment
