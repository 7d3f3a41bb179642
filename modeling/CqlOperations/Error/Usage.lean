import CqlOperations.Statement

/-! Errors of the caller, found before anything is sent. -/
namespace CqlOperations

inductive UsageError where
  | notFoldable (position : Nat) (kind : Statement.Kind)
  | emptyBatch
  | resultAlreadyTaken
deriving DecidableEq

namespace UsageError

def message : UsageError → String
  | notFoldable position kind =>
    "Statement at position " ++ toString position ++ " is not a regular statement (" ++ kind.name ++
      ") and cannot be added to a batch"
  | emptyBatch => "Batch must contain at least one statement"
  | resultAlreadyTaken => "Result has already been taken from this handle"

def describe : UsageError → String
  | notFoldable position kind =>
    Text.record "NotFoldable"
      [("position", toString position), ("kind", Text.quoted kind.name)]
  | emptyBatch => "EmptyBatch"
  | resultAlreadyTaken => "ResultAlreadyTaken"

end UsageError
end CqlOperations
