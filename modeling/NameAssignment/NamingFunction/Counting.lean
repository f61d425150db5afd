import NameAssignment.NamingFunction

/-!
The counting naming function: a run of one filler character after the proposal and, where several
names are wanted, a number after the run.

A single name tries `Foo`, `Foo_`, `Foo__` and so on. Three names try `Foo0 Foo1 Foo2`, then
`Foo_0 Foo_1 Foo_2`: one run length serves the whole batch, and the shortest that avoids every
forbidden name is taken. A run longer than every forbidden name cannot be forbidden, so the search
is over finitely many lengths.
-/

namespace NameAssignment.Counting

/-- The filler used when none is chosen. -/
def defaultFiller : Char := '_'

/-- A run of fillers. -/
def run (filler : Char) (length : Nat) : String := String.ofList (List.replicate length filler)

/-- The names tried with a given run length. A single name carries no number. -/
def batch (filler : Char) (proposed : String) (count length : Nat) : List String :=
  if count = 1 then [proposed ++ run filler length]
  else (List.range count).map fun position =>
    proposed ++ run filler length ++ toString position

/-- No name of the batch is forbidden. -/
def isFree (forbidden : NameSet) (names : List String) : Bool :=
  names.all fun name => !forbidden.contains name

/-- The length of the longest forbidden name. -/
def longest (forbidden : NameSet) : Nat :=
  forbidden.toList.foldl (fun length name => max length name.length) 0

/-- The shortest run that keeps the whole batch free. -/
def runLength (filler : Char) (proposed : String) (forbidden : NameSet) (count : Nat) : Nat :=
  ((List.range (longest forbidden + 2)).find? fun length =>
    isFree forbidden (batch filler proposed count length)).getD 0

/-- Said when no name at all is asked for. -/
def nothingAsked (proposed : String) : String := "asked for zero names for `" ++ proposed ++ "`"

/-- The counting naming function with the given filler. -/
def names (filler : Char) : NamingFunction := fun proposed forbidden count =>
  if count = 0 then .error (.invalidRequest (nothingAsked proposed))
  else .ok (batch filler proposed count (runLength filler proposed forbidden count))

end NameAssignment.Counting
