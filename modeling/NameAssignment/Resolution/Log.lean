import NameAssignment.Graph

/-!
Computations that call naming functions: what they yield, and which calls they made.

A run that fails has still made its calls, the failing one included, so the log stands beside the
outcome and not inside it.
-/

namespace NameAssignment

/-- Entities that are named together: they share a naming function and a proposal. -/
structure Batch where
  function : FunctionRef
  proposed : String
  members : List EntityRef
  deriving DecidableEq

/-- One call of a naming function: for which namespace and batch, with which forbidden names, and
which names were assigned when it was made. -/
structure NamingCall where
  home : NamespaceRef
  batch : Batch
  forbidden : NameSet
  held : Names

/-- The calls a computation made, in order, and how it ended. -/
structure Logged (α : Type) where
  calls : List NamingCall
  result : Except Error α

namespace Logged

variable {α β : Type}

/-- Makes no call. -/
def of (result : Except Error α) : Logged α := ⟨[], result⟩

/-- Makes one call. -/
def call (entry : NamingCall) (result : Except Error α) : Logged α := ⟨[entry], result⟩

/-- Goes on after success only; the calls add up. -/
def bind (first : Logged α) (next : α → Logged β) : Logged β :=
  match first.result with
  | .error cause => ⟨first.calls, .error cause⟩
  | .ok value => ⟨first.calls ++ (next value).calls, (next value).result⟩

instance : Monad Logged where
  pure value := of (.ok value)
  bind := bind

@[simp] theorem calls_of (result : Except Error α) : (of result).calls = [] := rfl

@[simp] theorem result_of (result : Except Error α) : (of result).result = result := rfl

/-- A computation succeeds exactly when both of its parts do. -/
theorem result_bind_eq_ok_iff {first : Logged α} {next : α → Logged β} {value : β} :
    (first.bind next).result = .ok value ↔
      ∃ middle, first.result = .ok middle ∧ (next middle).result = .ok value := by
  unfold bind
  cases first.result <;> simp

end Logged

end NameAssignment
