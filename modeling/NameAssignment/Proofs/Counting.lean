import Mathlib.Data.List.Nodup
import Mathlib.Data.List.Sort
import NameAssignment.NamingFunction.Counting

/-! The counting naming function keeps the contract. A run of fillers longer than every forbidden
name makes names that are longer still, so the search over run lengths always finds one; and a
number is written in one way only, so the names of a batch differ. -/
namespace NameAssignment

/-- A naming function is reliable if, asked for one name or more, it answers with that many names,
pairwise distinct and none of them forbidden. -/
def NamingFunction.Reliable (function : NamingFunction) : Prop :=
  ∀ proposed forbidden count, 0 < count → ∃ answer,
    function proposed forbidden count = .ok answer ∧ answer.length = count ∧ answer.Nodup ∧
      ∀ name ∈ answer, forbidden.contains name = false

/-- The names listed are those that the set contains. -/
theorem NameSet.mem_toList_iff {set : NameSet} : name ∈ set.toList ↔ set.contains name = true := by
  simp [toList, contains, NameMap.contains, NameMap.get?, List.lookup_isSome_iff]

/-- Sets with the same members are equal: both list them in increasing order. -/
theorem NameSet.eq_of_contains {first second : NameSet}
    (same : ∀ name, first.contains name = second.contains name) : first = second := by
  have increasing (set : NameSet) : set.toList.Pairwise (· < ·) :=
    List.pairwise_map.mpr set.members.increasing
  have listed : first.toList = second.toList := by
    apply (increasing first).eq_of_mem_iff (increasing second)
    intro name
    rw [mem_toList_iff, mem_toList_iff, same]
  obtain ⟨⟨entries, _⟩⟩ := first
  obtain ⟨⟨others, _⟩⟩ := second
  obtain rfl : entries = others :=
    List.map_injective_iff.mpr (fun _ _ equal => Prod.ext equal rfl) listed
  rfl

namespace Counting
variable {filler : Char} {proposed : String} {forbidden : NameSet}

theorem length_run (filler : Char) (length : Nat) : (run filler length).length = length := by
  simp [run]

theorem length_batch (filler : Char) (proposed : String) (count length : Nat) :
    (batch filler proposed count length).length = count := by
  unfold batch
  by_cases single : count = 1
  · simp [single]
  · simp [single]

/-- Two numbers that are written alike are one number. -/
theorem toString_inj {first second : Nat} (same : toString first = toString second) :
    first = second := by
  have digits : Nat.toDigits 10 first = Nat.toDigits 10 second := by
    simpa using congrArg String.toList same
  have read := congrArg (fun digits => Nat.ofDigitChars 10 digits 0) digits
  simpa using read

theorem nodup_batch (filler : Char) (proposed : String) (count length : Nat) :
    (batch filler proposed count length).Nodup := by
  unfold batch
  by_cases single : count = 1
  · simp [single]
  · rw [if_neg single]
    apply List.nodup_range.map
    intro first second same
    apply toString_inj
    apply String.toList_inj.mp
    have letters := congrArg String.toList same
    simp only [String.toList_append] at letters
    exact List.append_cancel_left letters

/-- The name at a position: the proposal, the run and, if there are several, the position. -/
theorem eq_of_getElem?_batch {position : Nat}
    (found : (batch filler proposed count length)[position]? = some name) :
    name = proposed ++ run filler length ++ if 1 < count then toString position else "" := by
  unfold batch at found
  by_cases single : count = 1
  · rw [if_pos single] at found
    have listed := List.mem_of_getElem? found
    rw [List.mem_singleton.mp listed, if_neg (by omega), String.append_empty]
  · rw [if_neg single, List.getElem?_map, Option.map_eq_some_iff] at found
    obtain ⟨index, there, rfl⟩ := found
    obtain ⟨below, rfl⟩ := List.getElem?_eq_some_iff.mp there
    rw [List.length_range] at below
    rw [List.getElem_range, if_pos (by omega)]

/-- Every name tried is as long as its run at least. -/
theorem le_length_of_mem_batch (member : name ∈ batch filler proposed count length) :
    length ≤ name.length := by
  unfold batch at member
  by_cases single : count = 1
  · rw [if_pos single, List.mem_singleton] at member
    rw [member, String.length_append, length_run]
    omega
  · rw [if_neg single] at member
    obtain ⟨position, -, rfl⟩ := List.mem_map.mp member
    rw [String.length_append, String.length_append, length_run]
    omega

/-- No forbidden name is longer than the longest. -/
theorem length_le_longest (held : forbidden.contains name = true) :
    name.length ≤ longest forbidden := by
  have listed : name ∈ forbidden.toList := NameSet.mem_toList_iff.mpr held
  have bounded (names : List String) (bound : Nat) :
      bound ≤ names.foldl (fun length name => max length name.length) bound ∧
        ∀ name ∈ names, name.length ≤
          names.foldl (fun length name => max length name.length) bound := by
    induction names generalizing bound with
    | nil => simp
    | cons first rest ih =>
      obtain ⟨above, others⟩ := ih (max bound first.length)
      rw [List.foldl_cons]
      constructor
      · omega
      · intro name member
        rcases List.mem_cons.mp member with rfl | later
        · omega
        · exact others name later
  exact (bounded forbidden.toList 0).2 name listed

/-- The run length that is found keeps the batch free. -/
theorem isFree_runLength (filler : Char) (proposed : String) (forbidden : NameSet) (count : Nat) :
    isFree forbidden (batch filler proposed count (runLength filler proposed forbidden count)) =
      true := by
  have beyond : isFree forbidden (batch filler proposed count (longest forbidden + 1)) = true := by
    apply List.all_eq_true.mpr
    intro name member
    have long := le_length_of_mem_batch member
    cases held : forbidden.contains name with
    | false => rfl
    | true =>
      have short := length_le_longest held
      omega
  unfold runLength
  cases search : (List.range (longest forbidden + 2)).find? fun length =>
      isFree forbidden (batch filler proposed count length) with
  | none =>
    have tried : longest forbidden + 1 ∈ List.range (longest forbidden + 2) := by simp
    exact absurd beyond (List.find?_eq_none.mp search _ tried)
  | some length =>
    have free := List.find?_some search
    exact free

/-- An answer is the batch with the run that is found. -/
theorem eq_batch_of_names_ok (answered : names filler proposed forbidden count = .ok answer) :
    answer = batch filler proposed count (runLength filler proposed forbidden count) := by
  unfold names at answered
  split at answered
  · cases answered
  · cases answered
    rfl

/-- No run that keeps the batch free is shorter than the one that is found. -/
theorem runLength_le (free : isFree forbidden (batch filler proposed count length) = true) :
    runLength filler proposed forbidden count ≤ length := by
  unfold runLength
  cases search : (List.range (longest forbidden + 2)).find? fun tried =>
      isFree forbidden (batch filler proposed count tried) with
  | none => exact Nat.zero_le _
  | some found =>
    obtain ⟨-, inside, earlier⟩ := List.find?_range_eq_some.mp search
    by_contra longer
    have refused := earlier length (by simpa using longer)
    rw [free] at refused
    cases refused

/-- A single name is given as it was proposed, if it is not forbidden. -/
theorem names_of_allowed (allowed : forbidden.contains proposed = false) :
    names filler proposed forbidden 1 = .ok [proposed] := by
  have plain : batch filler proposed 1 0 = [proposed] := by simp [batch, run]
  have free : isFree forbidden (batch filler proposed 1 0) = true := by
    simp [plain, isFree, allowed]
  have shortest : runLength filler proposed forbidden 1 = 0 :=
    Nat.eq_zero_of_le_zero (runLength_le free)
  rw [names, if_neg Nat.one_ne_zero, shortest, plain]

/-- More forbidden names leave an answer as it is, if it avoids them too: the run that was found is
free still, and shorter ones were not free before. -/
theorem names_of_forbids_more {more : NameSet}
    (answered : names filler proposed forbidden count = .ok answer)
    (grown : ∀ name, forbidden.contains name = true → more.contains name = true)
    (avoided : ∀ name ∈ answer, more.contains name = false) :
    names filler proposed more count = .ok answer := by
  have made := eq_batch_of_names_ok answered
  have free : isFree more
      (batch filler proposed count (runLength filler proposed forbidden count)) = true := by
    apply List.all_eq_true.mpr
    intro name member
    rw [← made] at member
    simp [avoided name member]
  have least : isFree forbidden
      (batch filler proposed count (runLength filler proposed more count)) = true := by
    apply List.all_eq_true.mpr
    intro name member
    have clear := List.all_eq_true.mp (isFree_runLength filler proposed more count) name member
    cases held : forbidden.contains name with
    | false => rfl
    | true => simp [grown name held] at clear
  have same : runLength filler proposed more count = runLength filler proposed forbidden count :=
    Nat.le_antisymm (runLength_le free) (runLength_le least)
  have asked : count ≠ 0 := by
    rintro rfl
    cases answered
  rw [names, if_neg asked, same, made]

/-- **Counting keeps the contract**, whatever the filler. -/
theorem reliable_names (filler : Char) : NamingFunction.Reliable (names filler) := by
  intro proposed forbidden count asked
  have answered : names filler proposed forbidden count =
      .ok (batch filler proposed count (runLength filler proposed forbidden count)) := by
    rw [names, if_neg (by omega)]
  refine ⟨_, answered, length_batch _ _ _ _, nodup_batch _ _ _ _, ?_⟩
  intro name member
  have free := List.all_eq_true.mp (isFree_runLength filler proposed forbidden count) name member
  simpa using free

end Counting

end NameAssignment
