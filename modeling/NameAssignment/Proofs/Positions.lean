import Mathlib.Data.List.Basic
import Mathlib.Data.List.Duplicate
import Mathlib.Data.List.ReduceOption
import NameAssignment.Manifest.Build

/-! Names and positions. Handles are given out in order, so what is declared with a name has its
position as its handle. A map that is made from names paired with their positions gives back exactly
these, if no name occurs twice; and where handles are entered one by one, a name that occurs twice
is refused. -/
namespace NameAssignment

section Positions
variable {arena : Arena} {map : NameMap (Handle arena)} {slots : List (Option String)}

/-- The position of a name among slots, some of which may have no name. -/
def position (slots : List (Option String)) (name : String) : Handle arena :=
  ⟨slots.idxOf (some name)⟩

/-- A map gives every name its position and knows no other name. So no name has two positions. -/
def NameMap.Numbers (map : NameMap (Handle arena)) (slots : List (Option String)) : Prop :=
  ∀ name handle, map.get? name = some handle ↔ slots[handle.index]? = some (some name)

theorem NameMap.Numbers.eq_position (numbers : map.Numbers slots)
    (found : map.get? name = some handle) : some name ∈ slots ∧ handle = position slots name := by
  have listed : some name ∈ slots := List.mem_of_getElem? ((numbers _ _).mp found)
  have again : map.get? name = some (position slots name) :=
    (numbers _ _).mpr (List.getElem?_idxOf listed)
  exact ⟨listed, Option.some.inj (found.symm.trans again)⟩

theorem position_lt {slots : List (Option String)} (listed : some name ∈ slots) :
    (position slots name : Handle arena).index < slots.length :=
  List.idxOf_lt_length_of_mem listed

theorem NameMap.Numbers.absent (numbers : map.Numbers slots) (missing : map.get? name = none) :
    some name ∉ slots := by
  intro listed
  have found : map.get? name = some (position slots name) :=
    (numbers _ _).mpr (List.getElem?_idxOf listed)
  rw [missing] at found
  cases found

/-- The names among slots with their handles, the first slot having the handle `next`. -/
def numbered (next : Nat) (slots : List (Option String)) : List (String × Handle arena) :=
  (slots.zipIdx next).filterMap fun (slot, index) => slot.map (·, ⟨index⟩)

theorem mem_numbered_iff {handle : Handle arena} :
    (name, handle) ∈ numbered 0 slots ↔ slots[handle.index]? = some (some name) := by
  rw [numbered, List.mem_filterMap]
  constructor
  · rintro ⟨⟨slot, index⟩, listed, same⟩
    obtain ⟨text, rfl, same⟩ := Option.map_eq_some_iff.mp same
    cases same
    exact List.mem_zipIdx_iff_getElem?.mp listed
  · intro found
    exact ⟨(some name, handle.index), List.mem_zipIdx_iff_getElem?.mpr found, rfl⟩

theorem map_fst_numbered (next : Nat) (slots : List (Option String)) :
    (numbered next slots : List (String × Handle arena)).map Prod.fst = slots.reduceOption := by
  induction slots generalizing next with
  | nil => rfl
  | cons slot rest ih => cases slot <;> simp_all [numbered, List.reduceOption]

theorem reduceOption_map_some (items : List α) (key : α → String) :
    (items.map (some <| key ·)).reduceOption = items.map key := by
  simp [List.reduceOption, List.filterMap_map]

/-- Where every slot has a name, all of them are numbered. -/
theorem numbered_map_some (next : Nat) (items : List α) (key : α → String) :
    (numbered next (items.map (some <| key ·)) : List (String × Handle arena)) =
      items.zipIdx.map fun (item, index) => (key item, ⟨next + index⟩) := by
  rw [numbered, List.zipIdx_map, List.zipIdx_eq_map_add]
  simp [List.filterMap_map]

theorem numbered_append (next : Nat) (first second : List (Option String)) :
    (numbered next (first ++ second) : List (String × Handle arena)) =
      numbered next first ++ numbered (next + first.length) second := by
  rw [numbered, List.zipIdx_append, List.filterMap_append]
  rfl

/-- Slots without a name are passed over. -/
theorem numbered_map_none (next : Nat) (items : List α) :
    (numbered next (items.map fun _ => none) : List (String × Handle arena)) = [] := by
  rw [numbered, List.zipIdx_map, List.filterMap_map]
  exact List.filterMap_eq_nil_iff.mpr fun _ _ => rfl

end Positions

section Places
variable {arena : Arena}

theorem getElem?_concat (items : List α) (last : α) (index : Nat) :
    (items ++ [last])[index]? = if index = items.length then some last else items[index]? := by
  by_cases here : index = items.length
  · rw [if_pos here, here, List.getElem?_concat_length]
  · rw [if_neg here, List.getElem?_append]
    split
    · rfl
    · rw [List.getElem?_eq_none (by simp; omega), List.getElem?_eq_none (by omega)]

/-- The handles of the items that pass a test, in order. -/
def handlesWhere (test : α → Bool) (items : List α) : List (Handle arena) :=
  (items.findIdxs test).map (⟨·⟩)

theorem handlesWhere_concat (test : α → Bool) (items : List α) (item : α) :
    (handlesWhere test (items ++ [item]) : List (Handle arena)) =
      handlesWhere test items ++ if test item then [⟨items.length⟩] else [] := by
  rw [handlesWhere, List.findIdxs_append, List.map_append, List.findIdxs_singleton, Nat.zero_add,
    handlesWhere]
  split <;> rfl

theorem handlesWhere_eq_nil {test : α → Bool} {items : List α}
    (none : ∀ item ∈ items, test item = false) :
    (handlesWhere test items : List (Handle arena)) = [] := by
  rw [handlesWhere, List.findIdxs_eq_nil_iff.mpr none, List.map_nil]

theorem filterMap_zipIdx (test : α → Bool) (items : List α) :
    items.zipIdx.filterMap (fun (item, index) => if test item then some ⟨index⟩ else none) =
      (handlesWhere test items : List (Handle arena)) := by
  rw [handlesWhere, List.findIdxs_eq_filterMap_zipIdx, List.map_filterMap]
  congr 1
  funext ⟨item, index⟩
  cases passes : test item <;> simp [passes]

/-- Items that pass the same tests have the same handles. -/
theorem handlesWhere_congr {test : α → Bool} {again : β → Bool} {items : List α} {others : List β}
    (same : items.map test = others.map again) :
    (handlesWhere test items : List (Handle arena)) = handlesWhere again others := by
  have tested := congrArg (List.findIdxs id) same
  rw [List.findIdxs_map, List.findIdxs_map] at tested
  exact congrArg (List.map _) tested

theorem mem_handlesWhere {test : α → Bool} {items : List α} {handle : Handle arena} :
    handle ∈ handlesWhere test items ↔
      ∃ item, items[handle.index]? = some item ∧ test item = true := by
  rw [handlesWhere, List.mem_map]
  simp only [List.mem_findIdxs_iff_exists_getElem_pos]
  constructor
  · rintro ⟨index, ⟨inside, passes⟩, rfl⟩
    exact ⟨_, List.getElem?_eq_getElem inside, passes⟩
  · rintro ⟨item, found, passes⟩
    obtain ⟨inside, rfl⟩ := List.getElem?_eq_some_iff.mp found
    exact ⟨handle.index, ⟨inside, passes⟩, rfl⟩

theorem nodup_handlesWhere (test : α → Bool) (items : List α) :
    (handlesWhere test items : List (Handle arena)).Nodup :=
  List.nodup_findIdxs.map fun _ _ same => congrArg Handle.index same

end Places

namespace NameMap
variable {α : Type}

theorem contains_iff {map : NameMap α} :
    map.contains key = true ↔ key ∈ map.entries.map Prod.fst := by
  rw [contains, get?, List.lookup_isSome_iff, List.mem_map]
  simp only [beq_iff_eq, @eq_comm _ key]

theorem nodup_keys (map : NameMap α) : (map.entries.map Prod.fst).Nodup := by
  apply List.pairwise_map.mpr
  apply map.increasing.imp
  intro earlier later below same
  rw [same] at below
  exact String.lt_irrefl _ below

/-- What is found after an insertion was there before or has been inserted. -/
theorem of_get?_insert {map : NameMap α}
    (found : (map.insert key value).get? other = some result) :
    map.get? other = some result ∨ (other, result) = (key, value) := by
  rw [get?_insert] at found
  split at found
  · rename_i same
    cases found
    exact .inr (by rw [same])
  · exact .inl found

/-- An entry of a map made from a list is one of the list. -/
theorem mem_of_get?_ofList {entries : List (String × α)}
    (found : (ofList entries).get? key = some value) : (key, value) ∈ entries := by
  suffices grown : ∀ map : NameMap α,
      (entries.foldl (fun map entry => map.insert entry.1 entry.2) map).get? key = some value →
      map.get? key = some value ∨ (key, value) ∈ entries from
    (grown .empty found).resolve_left (by simp)
  clear found
  induction entries with
  | nil => exact fun map found => .inl found
  | cons entry rest ih =>
    intro map found
    rcases ih _ found with here | later
    · rcases of_get?_insert here with before | new
      · exact .inl before
      · exact .inr (new ▸ List.mem_cons_self)
    · exact .inr (List.mem_cons_of_mem _ later)

/-- Of entries with different keys none is lost. -/
theorem get?_ofList {entries : List (String × α)} (once : (entries.map Prod.fst).Nodup)
    (listed : (key, value) ∈ entries) : (ofList entries).get? key = some value := by
  suffices grown : ∀ map : NameMap α,
      ((key, value) ∈ entries ∨ key ∉ entries.map Prod.fst ∧ map.get? key = some value) →
      (entries.foldl (fun map entry => map.insert entry.1 entry.2) map).get? key = some value from
    grown .empty (.inl listed)
  clear listed
  induction entries with
  | nil =>
    rintro map (listed | ⟨-, kept⟩)
    · cases listed
    · exact kept
  | cons entry rest ih =>
    obtain ⟨first, others⟩ := List.nodup_cons.mp once
    rintro map (listed | ⟨absent, kept⟩) <;> apply ih others
    · rcases List.mem_cons.mp listed with rfl | later
      · exact .inr ⟨first, by rw [get?_insert, if_pos rfl]⟩
      · exact .inl later
    · obtain ⟨differ, absent⟩ := not_or.mp (mt List.mem_cons.mpr absent)
      exact .inr ⟨absent, by rw [get?_insert, if_neg differ, kept]⟩

end NameMap

namespace Manifest

variable {manifest : Manifest} {filler : Char} {directory : Directory}

section Entering
variable {arena : Arena} {start map : NameMap (Handle arena)} {pairs : List (String × Handle arena)}

/-- Only different names can be entered, and none that is there already. -/
theorem fresh_of_enterAll (entered : enterAll fault start pairs = .ok map) :
    (pairs.map Prod.fst).Nodup ∧ ∀ name ∈ pairs.map Prod.fst, start.contains name = false := by
  induction pairs generalizing start with
  | nil => simp
  | cons pair rest ih =>
    obtain ⟨key, value⟩ := pair
    unfold enterAll at entered
    split at entered
    · cases entered
    · rename_i fresh
      obtain ⟨once, apart⟩ := ih entered
      have differ : ∀ name ∈ rest.map Prod.fst, name ≠ key ∧ start.contains name = false := by
        intro name listed
        have new := apart name listed
        by_cases same : name = key <;> simp_all [NameMap.contains, NameMap.get?_insert]
      rw [List.map_cons, List.nodup_cons, List.forall_mem_cons]
      exact ⟨⟨fun listed => (differ key listed).1 rfl, once⟩, by simpa using fresh,
        fun name listed => (differ name listed).2⟩

/-- What is entered was there before or is one of the names to be entered. -/
theorem mem_of_enterAll {handle : Handle arena}
    (entered : enterAll fault start pairs = .ok map)
    (found : map.get? name = some handle) :
    start.get? name = some handle ∨ (name, handle) ∈ pairs := by
  induction pairs generalizing start with
  | nil =>
    cases entered
    exact .inl found
  | cons pair rest ih =>
    obtain ⟨key, value⟩ := pair
    unfold enterAll at entered
    split at entered
    · cases entered
    · rcases ih entered with here | later
      · rcases NameMap.of_get?_insert here with before | new
        · exact .inl before
        · exact .inr (new ▸ List.mem_cons_self)
      · exact .inr (List.mem_cons_of_mem _ later)

/-- Everything is entered, and what was there before is kept. -/
theorem get?_of_enterAll {handle : Handle arena} (entered : enterAll fault start pairs = .ok map)
    (given : start.get? name = some handle ∨ (name, handle) ∈ pairs) :
    map.get? name = some handle := by
  induction pairs generalizing start with
  | nil =>
    cases entered
    simpa using given
  | cons pair rest ih =>
    obtain ⟨key, value⟩ := pair
    unfold enterAll at entered
    split at entered
    · cases entered
    · rename_i fresh
      apply ih entered
      rw [NameMap.get?_insert]
      rcases given with before | listed
      · have differ : name ≠ key := by
          rintro rfl
          simp [NameMap.contains, before] at fresh
        exact .inl (by rw [if_neg differ, before])
      · rcases List.mem_cons.mp listed with same | later
        · cases same
          exact .inl (if_pos rfl)
        · exact .inr later

/-- What is refused is a name that is there already. -/
theorem enterAll_error (failed : enterAll fault start pairs = .error cause) :
    ∃ name, cause = .manifest (fault name) ∧
      (start.contains name = true ∧ name ∈ pairs.map Prod.fst ∨
        List.Duplicate name (pairs.map Prod.fst)) := by
  induction pairs generalizing start with
  | nil => cases failed
  | cons pair rest ih =>
    obtain ⟨key, value⟩ := pair
    unfold enterAll at failed
    split at failed
    · rename_i known
      cases failed
      exact ⟨key, rfl, .inl ⟨known, List.mem_cons_self⟩⟩
    · obtain ⟨name, same, ⟨known, listed⟩ | again⟩ := ih failed
      · refine ⟨name, same, ?_⟩
        by_cases new : name = key
        · subst new
          exact .inr listed.duplicate_cons_self
        · rw [NameMap.contains, NameMap.get?_insert, if_neg new] at known
          exact .inl ⟨known, List.mem_cons_of_mem _ listed⟩
      · exact ⟨name, same, .inr (again.duplicate_cons _)⟩

/-- Names that can all be entered get their positions. -/
theorem numbers_of_enterAll {slots : List (Option String)}
    (entered : enterAll fault .empty (numbered 0 slots) = .ok map) : map.Numbers slots := by
  intro name handle
  rw [← mem_numbered_iff]
  constructor
  · intro found
    exact (mem_of_enterAll entered found).resolve_left (by simp)
  · exact fun listed => get?_of_enterAll entered (.inr listed)

theorem nodup_of_enterAll {slots : List (Option String)}
    (entered : enterAll fault .empty (numbered 0 slots) = .ok map) : slots.reduceOption.Nodup := by
  have once := (fresh_of_enterAll entered).1
  rwa [map_fst_numbered] at once

/-- What is refused is a name that occurs twice. -/
theorem duplicate_of_enterAll {slots : List (Option String)}
    (failed : enterAll fault (.empty : NameMap (Handle arena)) (numbered 0 slots) = .error cause) :
    ∃ name, cause = .manifest (fault name) ∧ slots.reduceOption.Duplicate name := by
  obtain ⟨name, same, ⟨known, -⟩ | again⟩ := enterAll_error failed
  · cases known
  · rw [map_fst_numbered] at again
    exact ⟨name, same, again⟩

end Entering

end Manifest

end NameAssignment
