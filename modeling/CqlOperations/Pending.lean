import CqlOperations.Execution

/-! Handles to results that may not be known yet. -/
namespace CqlOperations

/-- A result known from the start, or that of a task `τ`, until it is taken. -/
inductive Pending (τ ρ : Type) where
  | ready (result : Result ρ)
  | inFlight (task : τ)
  | consumed

namespace Pending

variable {τ ρ : Type}

/-- The handle to an execution that runs as a task, unless its result is known already. -/
def ofExecution (x : Execution ρ) (task : τ) : Pending τ ρ :=
  match x.known? with
  | some result => ready result
  | none => inFlight task

def stateName : Pending τ ρ → String
  | ready _ => "Ready"
  | inFlight _ => "InFlight"
  | consumed => "Consumed"

def text (p : Pending τ ρ) : String :=
  Text.record "PendingResult" [("state", Text.quoted p.stateName)]

/-- Whether the result is known, given what each task came to so far. -/
def isFinished (joined? : τ → Option (Result ρ)) : Pending τ ρ → Bool
  | inFlight task => (joined? task).isSome
  | _ => true

/-- Takes the result if it is known. It can be taken once; after that there is only an error. -/
def poll (joined? : τ → Option (Result ρ)) : Pending τ ρ → Pending τ ρ × Option (Result ρ)
  | ready result => (consumed, some result)
  | consumed => (consumed, some (.error (.usage .resultAlreadyTaken)))
  | inFlight task =>
    match joined? task with
    | some result => (consumed, some result)
    | none => (inFlight task, none)

/-- A wait between two moments: the result is taken at the first one if it is known then, and
otherwise at the second one. -/
def wait (before after : τ → Option (Result ρ)) (p : Pending τ ρ) :
    Pending τ ρ × Option (Result ρ) :=
  match p.poll before with
  | (p, some result) => (p, some result)
  | (p, none) => p.poll after

/-- A wait that expires when the result is not known at its end. -/
def waitWithin (limit : Duration) (before after : τ → Option (Result ρ)) (p : Pending τ ρ) :
    Pending τ ρ × Result ρ :=
  match p.wait before after with
  | (p, some result) => (p, result)
  | (p, none) => (p, .error (.waitTimeout limit))

end Pending
end CqlOperations
