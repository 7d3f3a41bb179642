import CqlOperations.Backend.Describe
import CqlOperations.Output

/-! Opening sessions. -/
namespace CqlOperations

/-- Whether the nodes can be reached at all. -/
inductive Network where
  | reachable
  | unreachable
deriving DecidableEq

/-- Why a session could not be opened. -/
inductive SessionError where
  | metadata (error : Backend.PoolError)
deriving DecidableEq

def SessionError.describe : SessionError → String
  | metadata error =>
    Text.tuple "MetadataError" [Text.tuple "ConnectionPoolError" [error.describe]]

/-- What the operating system says about a node that cannot be reached. -/
def Backend.SystemError.networkUnreachable : Backend.SystemError :=
  ⟨101, "NetworkUnreachable", "Network is unreachable"⟩

namespace Network

def connect : Network → Except SessionError Unit
  | reachable => .ok ()
  | unreachable => .error (.metadata (.broken (.system .networkUnreachable)))

/-- A session that has to be there: without one there is nothing to go on with. -/
def require (n : Network) : Outcome Unit :=
  match n.connect with
  | .ok () => .returned ()
  | .error error =>
    .panicked ("called `Result::unwrap()` on an `Err` value: " ++ error.describe)

end Network

/-- Prepares statements by their texts. -/
abbrev Preparer := String → Outcome (Except OperationError Unit)

/-- Prepares anything, over a session that is opened for it. -/
def Network.preparer (n : Network) : Preparer := fun _ =>
  match n.require with
  | .returned () => .returned (.ok ())
  | .panicked message => .panicked message
end CqlOperations
