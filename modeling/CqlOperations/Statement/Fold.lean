import CqlOperations.Error.Usage

/-! Folding regular statements into one batch. -/
namespace CqlOperations.Statement

/-- The texts and values of regular statements; `position` is that of the first one. -/
def regularParts (position : Nat) : List Statement → Except UsageError (List (Query × List Value))
  | [] => .ok []
  | unprepared query values :: rest =>
    (regularParts (position + 1) rest).map ((query, values) :: ·)
  | other :: _ => .error (.notFoldable position other.kind)

/-- A batch of at least one statement, all of them regular. The batch has no settings of its own. -/
def fold (type : BatchType) (statements : List Statement) : Except UsageError Statement := do
  let parts ← regularParts 0 statements
  if parts.isEmpty then throw .emptyBatch
  return batch type (parts.map Prod.fst) {} (parts.map Prod.snd)

end CqlOperations.Statement
