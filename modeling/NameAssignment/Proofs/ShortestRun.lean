import NameAssignment.Proofs.Counting

/-! The counting naming function takes the shortest run that will do. Trying one length after the
other comes to an end, because a run longer than every forbidden name cannot be forbidden. How soon
it ends depends on the filler: a name tells the length of its run, unless the filler is a digit and
the name has a number. So every forbidden name rules out one length at most, and only with a digit
for a filler it can rule out several. -/
namespace NameAssignment.ShortestRun
open Counting

variable {filler : Char} {proposed : String} {forbidden : NameSet} {count : Nat}

/-- Trying run lengths from one on. A length that keeps the whole batch free is taken; after any
other the run grows by one filler. -/
inductive Search (filler : Char) (proposed : String) (forbidden : NameSet) (count : Nat) :
    Nat → Nat → Prop
  | taken (free : isFree forbidden (batch filler proposed count length) = true) :
      Search filler proposed forbidden count length length
  | grown (refused : isFree forbidden (batch filler proposed count length) = false)
      (later : Search filler proposed forbidden count (length + 1) found) :
      Search filler proposed forbidden count length found

/-- A search ends at the first length that keeps the batch free. -/
theorem search_of_least (free : isFree forbidden (batch filler proposed count found) = true)
    (least : ∀ shorter < found,
      isFree forbidden (batch filler proposed count shorter) = false)
    (start : Nat) (before : start ≤ found) :
    Search filler proposed forbidden count start found := by
  obtain ⟨steps, rfl⟩ := Nat.exists_eq_add_of_le before
  induction steps generalizing start with
  | zero => exact .taken free
  | succ steps ih =>
    have shift : start + (steps + 1) = (start + 1) + steps := by omega
    rw [shift] at free least ⊢
    exact .grown (least start (by omega)) (ih (start + 1) free least (by omega))

/-- A batch that is not free has a forbidden name. -/
theorem exists_forbidden {tried : List String} (refused : isFree forbidden tried = false) :
    ∃ name ∈ tried, forbidden.contains name = true := by
  obtain ⟨name, member, held⟩ := List.all_eq_false.mp refused
  exact ⟨name, member, by simpa using held⟩

/-- Every length before the one that is taken is refused. -/
theorem refused_of_lt (shorter : length < runLength filler proposed forbidden count) :
    isFree forbidden (batch filler proposed count length) = false := by
  cases free : isFree forbidden (batch filler proposed count length) with
  | false => rfl
  | true =>
    have least := runLength_le free
    omega

/-! ### How many lengths can be refused -/

/-- A number is written without any other characters than digits. -/
theorem count_toString (notDigit : filler.isDigit = false) (number : Nat) :
    (toString number).toList.count filler = 0 := by
  apply List.count_eq_zero.mpr
  intro member
  have digit : filler.isDigit = true :=
    Nat.isDigit_of_mem_toDigits (b := 10) (by decide) (by decide) (by simpa using member)
  rw [notDigit] at digit
  cases digit

/-- A name tells the length of its run by the number of fillers in it, if there is no number behind
the run or no number can contain the filler. -/
theorem count_filler (clear : count = 1 ∨ filler.isDigit = false)
    (member : name ∈ batch filler proposed count length) :
    name.toList.count filler = proposed.toList.count filler + length := by
  have fillers (suffix : String) (none : suffix.toList.count filler = 0) :
      (proposed ++ run filler length ++ suffix).toList.count filler =
        proposed.toList.count filler + length := by
    simp [run, none]
  unfold batch at member
  by_cases single : count = 1
  · rw [if_pos single, List.mem_singleton] at member
    rw [member, ← String.append_empty (s := proposed ++ _)]
    exact fillers "" rfl
  · rw [if_neg single] at member
    obtain ⟨position, -, rfl⟩ := List.mem_map.mp member
    exact fillers _ (count_toString (clear.resolve_left single) position)

/-- Then no forbidden name rules out two lengths, so there are as many forbidden names as lengths
that are ruled out. -/
theorem runLength_le_size (clear : count = 1 ∨ filler.isDigit = false) :
    runLength filler proposed forbidden count ≤ forbidden.size := by
  let told (name : String) : Nat := name.toList.count filler - proposed.toList.count filler
  have listed : List.range (runLength filler proposed forbidden count) ⊆
      forbidden.toList.map told := by
    intro length shorter
    obtain ⟨name, member, held⟩ := exists_forbidden (refused_of_lt (List.mem_range.mp shorter))
    refine List.mem_map.mpr ⟨name, NameSet.mem_toList_iff.mpr held, ?_⟩
    have fillers := count_filler clear member
    dsimp only [told]
    omega
  have bounded := List.nodup_range.length_le_of_subset listed
  simpa [NameSet.toList, NameSet.size, NameMap.size] using bounded

/-! ### What is answered -/

/-- What an answer with a run of the given length is like, and why it is that length. -/
structure Answers (filler : Char) (proposed : String) (forbidden : NameSet) (count length : Nat)
    (answer : List String) : Prop where
  /-- At each position stand the proposal, the run and, if there are several, the position. -/
  spelled : answer = (List.range count).map fun position =>
    proposed ++ String.ofList (List.replicate length filler) ++
      if 1 < count then toString position else ""
  distinct : answer.Nodup
  allowed : ∀ name ∈ answer, forbidden.contains name = false
  /-- Trying one length after the other ends with this one. -/
  searched : Search filler proposed forbidden count 0 length
  /-- With every shorter run some name of the batch is forbidden. -/
  least : ∀ shorter < length, ∃ name ∈ batch filler proposed count shorter,
    forbidden.contains name = true
  bounded : count = 1 ∨ filler.isDigit = false → length ≤ forbidden.size

theorem batch_eq_map (asked : 0 < count) (length : Nat) : batch filler proposed count length =
    (List.range count).map fun position =>
      proposed ++ run filler length ++ if 1 < count then toString position else "" := by
  unfold batch
  by_cases single : count = 1
  · subst single
    simp
  · have several : 1 < count := by omega
    simp [single, several]

theorem answers_runLength (asked : 0 < count) : Answers filler proposed forbidden count
    (runLength filler proposed forbidden count)
    (batch filler proposed count (runLength filler proposed forbidden count)) where
  spelled := batch_eq_map asked _
  distinct := nodup_batch _ _ _ _
  allowed name member := by
    have free := List.all_eq_true.mp (isFree_runLength filler proposed forbidden count) name member
    simpa using free
  searched := search_of_least (isFree_runLength _ _ _ _) (fun _ => refused_of_lt) 0 (Nat.zero_le _)
  least _ shorter := exists_forbidden (refused_of_lt shorter)
  bounded := runLength_le_size

/-- **Counting takes the shortest run.** It refuses a request for no name and no other. What it
answers to any other are so many different allowed names, spelled with the shortest run that keeps
all of them clear of the forbidden ones; and unless the filler is a digit and the names are numbered
that run has at most as many fillers as there are forbidden names. -/
theorem counting_takes_the_shortest_run (filler : Char) (proposed : String) (forbidden : NameSet)
    (count : Nat) :
    ((∃ reason, names filler proposed forbidden count = .error (.invalidRequest reason)) ↔
      count = 0) ∧
    (0 < count → ∃ length answer, names filler proposed forbidden count = .ok answer ∧
      Answers filler proposed forbidden count length answer) := by
  constructor
  · unfold names
    split
    · rename_i nothing
      exact ⟨fun _ => nothing, fun _ => ⟨_, rfl⟩⟩
    · rename_i something
      refine ⟨?_, fun nothing => absurd nothing something⟩
      rintro ⟨reason, refused⟩
      cases refused
  · intro asked
    refine ⟨_, _, ?_, answers_runLength asked⟩
    rw [names, if_neg (by omega)]

/-- Only one name of three is forbidden, and the whole batch takes a longer run: as long as there
are forbidden names. -/
theorem batch_shares_its_run : 0 < 3 ∧ ∃ length,
    names '_' "Foo" (.ofList ["Foo1"]) 3 = .ok ["Foo_0", "Foo_1", "Foo_2"] ∧
      Answers '_' "Foo" (.ofList ["Foo1"]) 3 length ["Foo_0", "Foo_1", "Foo_2"] := by
  have given : names '_' "Foo" (.ofList ["Foo1"]) 3 = .ok ["Foo_0", "Foo_1", "Foo_2"] := by
    decide +kernel
  obtain ⟨length, answer, answered, shown⟩ :=
    (counting_takes_the_shortest_run '_' "Foo" (.ofList ["Foo1"]) 3).2 (by decide)
  obtain rfl : _ = answer := Except.ok.inj (given.symm.trans answered)
  exact ⟨by decide, length, given, shown⟩

/-- With a digit for a filler one forbidden name can rule out two lengths: `a11` is the name at
position 11 without a run, and the one at position 1 with a run of one. -/
example : runLength '1' "a" (.ofList ["a11"]) 12 = 2 := by decide +kernel

end NameAssignment.ShortestRun
