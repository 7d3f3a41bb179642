import CqlOperations.Error

/-! Notifiers call the failure handler of an execution at most once.

Level 0 reports to the handler. Each level above it belongs to one processor and holds the first
failure it gets until the processor is done. -/
namespace CqlOperations

/-- A call of a failure handler. -/
structure Report where
  handler : Handler
  error : OperationError
deriving DecidableEq

/-- `held` has one entry for each level above 0, starting with level 1. -/
structure Notifier where
  handler : Option Handler
  fired : Bool := false
  held : List (Option OperationError) := []
deriving DecidableEq

namespace Notifier

/-- A notifier with `levels` levels above the reporting one. -/
def ofLevels (handler : Option Handler) (levels : Nat) : Notifier where
  handler := handler
  held := List.replicate levels none

/-- Gives an error to a level. The first one counts, on each level. -/
def notify (n : Notifier) (error : OperationError) : Nat → Notifier × List Report
  | 0 =>
    if n.fired then (n, [])
    else ({ n with fired := true }, n.handler.toList.map fun handler => ⟨handler, error⟩)
  | level + 1 => ({ n with held := n.held.modify level fun kept => kept.or (some error) }, [])

def notifyAll (n : Notifier) (level : Nat) : List OperationError → Notifier × List Report
  | [] => (n, [])
  | error :: rest =>
    let (n, first) := n.notify error level
    let (n, more) := notifyAll n level rest
    (n, first ++ more)

/-- Passes what the level above `level` holds, if anything, to `level`. -/
def release (n : Notifier) (level : Nat) : Notifier × List Report :=
  match n.held[level]? with
  | some (some error) => n.notify error level
  | _ => (n, [])

/-- Releases `count` levels one after another, down to level 0. -/
def releaseAll (n : Notifier) : Nat → Notifier × List Report
  | 0 => (n, [])
  | level + 1 =>
    let (n, first) := n.release level
    let (n, more) := releaseAll n level
    (n, first ++ more)

end Notifier
end CqlOperations
