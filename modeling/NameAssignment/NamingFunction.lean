import NameAssignment.Error
import NameAssignment.Names.Set

/-!
Naming functions: the pluggable part that turns one proposal into as many names as share it.

A naming function gets the proposal, the set of names to avoid and a count. Its contract is to
return exactly that many names, pairwise distinct, none of them in the set. `NamingFunction.audit`
says whether an answer kept the contract; nothing else in the library relies on the function.
-/

namespace NameAssignment

/-- From a proposal, the forbidden names and a count to that many names. -/
abbrev NamingFunction := String → NameSet → Nat → Except Error (List String)

/-- Checks an answer against the contract: the count first, then that no name comes twice, then
that none is forbidden. -/
def NamingFunction.audit (function : FunctionRef) (proposed : String) (forbidden : NameSet)
    (count : Nat) (names : List String) : Except Error Unit :=
  if names.length ≠ count then
    .error (.contract (.wrongCount function proposed names.length count))
  else if ¬ names.Nodup then
    .error (.contract (.repeatedName function proposed names))
  else
    match names.find? forbidden.contains with
    | some name => .error (.contract (.forbiddenName function proposed name))
    | none => .ok ()

/-- An answer passes exactly when it keeps the contract. -/
theorem NamingFunction.audit_eq_ok_iff {function : FunctionRef} {proposed : String}
    {forbidden : NameSet} {count : Nat} {names : List String} :
    NamingFunction.audit function proposed forbidden count names = .ok () ↔
      names.length = count ∧ names.Nodup ∧ ∀ name ∈ names, forbidden.contains name = false := by
  unfold audit
  split
  · simp [*]
  · split
    · simp_all
    · cases search : names.find? forbidden.contains with
      | none => simp_all
      | some name =>
        have found := List.find?_some search
        have member := List.mem_of_find?_eq_some search
        simp only [reduceCtorEq, false_iff]
        intro kept
        simp [kept.2.2 name member] at found

end NameAssignment
