import CqlOperations.Text.Structural

/-! Retry policies that an operation may ask for. -/
namespace CqlOperations

/-- The policy object that decides about retries of a request. -/
inductive RetryPolicy where
  | default
  | downgradingConsistency
  | fallthrough
  | custom (description : String)
deriving DecidableEq

/-- The choice of a policy. -/
inductive RetryPolicyKind where
  | default
  | downgradingConsistency
  | fallthrough
  | custom (description : String)
deriving DecidableEq

def RetryPolicy.text : RetryPolicy → String
  | default => "DefaultRetryPolicy"
  | downgradingConsistency => "DowngradingConsistencyRetryPolicy"
  | fallthrough => "FallthroughRetryPolicy"
  | custom description => description

structure UnknownRetryPolicy where
  name : String
deriving DecidableEq

def UnknownRetryPolicy.message (e : UnknownRetryPolicy) : String :=
  "Unknown retry policy: " ++ e.name ++
    ", expected one of DEFAULT, DOWNGRADING_CONSISTENCY, FALLTHROUGH"

namespace RetryPolicyKind

/-- The policy object of a kind; a custom kind stands for an object of its own. -/
def resolve : RetryPolicyKind → RetryPolicy
  | default => .default
  | downgradingConsistency => .downgradingConsistency
  | fallthrough => .fallthrough
  | custom description => .custom description

def text : RetryPolicyKind → String
  | default => "Default"
  | downgradingConsistency => "DowngradingConsistency"
  | fallthrough => "Fallthrough"
  | custom description => Text.tuple "Custom" [description]

/-- Reads a name in ASCII letters of either case. -/
def ofName (name : String) : Except UnknownRetryPolicy RetryPolicyKind :=
  match String.ofList (name.toList.map Char.toUpper) with
  | "DEFAULT" => .ok default
  | "DOWNGRADING_CONSISTENCY" => .ok downgradingConsistency
  | "FALLTHROUGH" => .ok fallthrough
  | _ => .error ⟨name⟩

end RetryPolicyKind
end CqlOperations
