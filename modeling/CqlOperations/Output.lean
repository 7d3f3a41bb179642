import CqlOperations.Batch.Result
import CqlOperations.Datum

/-! What a successful operation comes to, and the processors that work on it. -/
namespace CqlOperations

/-- The reply to one request, the result of a batch, or what a processor made. -/
inductive Output (ρ : Type) where
  | reply (value : ρ)
  | batch (result : BatchResult ρ)
  | made (datum : Datum)

/-- The first failure that a successful output holds. -/
def Output.failure? {ρ : Type} : Output ρ → Option OperationError
  | batch result => result.firstFailure?
  | _ => none

abbrev Result (ρ : Type) := Except OperationError (Output ρ)

/-- What running code that may panic comes to. -/
inductive Outcome (α : Type) where
  | returned (value : α)
  | panicked (message : String)

/-- A step that processes a successful result; it is known by its label. -/
structure Processor (ρ : Type) where
  label : String
  run : Output ρ → Outcome (Result ρ)

end CqlOperations
