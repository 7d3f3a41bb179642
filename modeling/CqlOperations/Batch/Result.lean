import CqlOperations.Error.Describe

/-! Results of a batch, one slot for each statement, in the order of the statements. -/
namespace CqlOperations

/-- The outcome of one statement; an absent one came to nothing before it ended. -/
inductive Slot (α : Type) where
  | ok (value : α)
  | failed (error : OperationError)
  | absent
deriving DecidableEq

namespace Slot

variable {α : Type}

def isOk : Slot α → Bool
  | ok _ => true
  | _ => false

def isFailed : Slot α → Bool
  | failed _ => true
  | _ => false

def value? : Slot α → Option α
  | ok value => some value
  | _ => none

def error? : Slot α → Option OperationError
  | failed error => some error
  | _ => none

/-- The value, or the error of a slot at `position` that has none. -/
def toExcept (position : Nat) : Slot α → Except OperationError α
  | ok value => .ok value
  | failed error => .error error
  | absent => .error (.noResult position)

end Slot

structure BatchResult (α : Type) where
  slots : List (Slot α)
deriving DecidableEq

namespace BatchResult

variable {α : Type}

def size (b : BatchResult α) : Nat :=
  b.slots.length

def isEmpty (b : BatchResult α) : Bool :=
  b.slots.isEmpty

def get? (b : BatchResult α) (position : Nat) : Option (Slot α) :=
  b.slots[position]?

def isAllOk (b : BatchResult α) : Bool :=
  b.slots.all Slot.isOk

/-- The error of the first slot that failed. -/
def firstFailure? (b : BatchResult α) : Option OperationError :=
  b.slots.findSome? Slot.error?

/-- Positions and errors of the slots that failed. -/
def failures (b : BatchResult α) : List (Nat × OperationError) :=
  b.slots.zipIdx.filterMap fun (slot, position) => slot.error?.map (position, ·)

def failedPositions (b : BatchResult α) : List Nat :=
  b.slots.zipIdx.filterMap fun (slot, position) => if slot.isFailed then some position else none

/-- The values, with a gap for each statement without one. -/
def values (b : BatchResult α) : List (Option α) :=
  b.slots.map Slot.value?

/-- The values of slots whose first is at `position`, or the first error among them. -/
def collect (position : Nat) : List (Slot α) → Except OperationError (List α)
  | [] => .ok []
  | slot :: rest => do
    let value ← slot.toExcept position
    let values ← collect (position + 1) rest
    return value :: values

/-- All values, or the error of the first slot without one. -/
def toExcept (b : BatchResult α) : Except OperationError (List α) :=
  collect 0 b.slots

/-- The structural text, given that of a value. -/
def describe (valueText : α → String) (b : BatchResult α) : String :=
  let slotText : Slot α → String
    | .ok value => Text.tuple "Ok" [valueText value]
    | .failed error => Text.tuple "Failed" [error.describe]
    | .absent => "Absent"
  Text.record "BatchResult" [("slots", Text.list (b.slots.map slotText))]

end BatchResult
end CqlOperations
