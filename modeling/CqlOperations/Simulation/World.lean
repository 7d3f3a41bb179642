import CqlOperations.Operation
import CqlOperations.Pending
import CqlOperations.Simulation.Stub

/-! A world in virtual time: requests, executions and executors side by side. -/
namespace CqlOperations.Simulation

inductive Event (ρ : Type) where
  | received (statement : Statement)
  | done (key : String)
  | transform (label : String)
  | submission (text : String)
  | executor (name : String)
  | handler (report : Report)
  | callback (name : String) (output : Output ρ)
  | completion (handle : String) (result : Result ρ)

/-- Where a request stands. -/
inductive Phase (ρ : Type) where
  | fresh
  | sleeping (due : Nat) (stub : Stub ρ)
  | waiting (stub : Stub ρ)
  | admitted (stub : Stub ρ)
  | over

structure Request (ρ : Type) where
  statement : Statement
  phase : Phase ρ := .fresh

/-- Gives a permit to a request that waits for one. -/
def Request.grant {ρ : Type} (r : Request ρ) : Request ρ :=
  match r.phase with
  | .waiting stub => { r with phase := .admitted stub }
  | _ => r

/-- Whether the task of an execution is polled when it is woken. -/
inductive Mode where
  | running
  | shelved
  | dropped
  | cancelled
deriving DecidableEq

/-- An execution with its requests and the executor for its tasks. Requests of a fan-out run on
tasks of their own; callbacks are known by a name. -/
structure Flow (ρ : Type) where
  execution : Execution ρ
  requests : List (Request ρ)
  fanOut : Bool
  executor : Executor
  name : String
  mode : Mode
  layers : Nat

/-- A task handed to an executor. -/
inductive Task (ρ : Type) where
  | process (flow : Nat) (processor : Processor ρ) (input : Output ρ)
  | report (report : Report)
  | deliver (name : String) (output : Output ρ)
  | complete (handle : String) (result : Result ρ)

/-- Waits for a handle on behalf of a pair of callbacks. -/
structure Watcher (ρ : Type) where
  name : String
  handle : Pending Nat ρ
  executor : Executor

inductive Job (ρ : Type) where
  | flow (id : Nat)
  | request (flow : Nat) (position : Nat)
  | work (task : Task ρ)
  | watch (watcher : Watcher ρ)

structure Timer (ρ : Type) where
  due : Nat
  job : Job ρ

/-- A request that waits for a permit. -/
structure Waiter where
  key : String
  flow : Nat
  position : Nat

/-- Flows are known by their position. `driven` is the one that a caller polls, `received` holds the
keys of all requests so far, `permits` those of the permits that nobody took yet. -/
structure World (ρ : Type) where
  treatment : Treatment ρ
  now : Nat := 0
  down : Bool := false
  received : List String := []
  flows : List (Flow ρ) := []
  driven : Option Nat := none
  queue : List (Job ρ) := []
  timers : List (Timer ρ) := []
  permits : List String := []
  waiters : List Waiter := []
  watchers : List (Watcher ρ) := []
  kept : List (Task ρ) := []
  events : List (Event ρ) := []

namespace World

variable {ρ : Type}

def log (w : World ρ) (e : Event ρ) : World ρ :=
  { w with events := w.events ++ [e] }

def enqueue (w : World ρ) (j : Job ρ) : World ρ :=
  { w with queue := w.queue ++ [j] }

def modifyFlow (w : World ρ) (id : Nat) (f : Flow ρ → Flow ρ) : World ρ :=
  { w with flows := w.flows.modify id f }

/-- Gives a signal to an execution. -/
def signal (w : World ρ) (id : Nat) (s : Signal ρ) : World ρ × List (Action ρ) :=
  match w.flows[id]? with
  | none => (w, [])
  | some flow =>
    let (execution, actions) := flow.execution.handle s
    ({ w with flows := w.flows.set id { flow with execution } }, actions)

/-- Gives a signal that only has to be taken down. -/
def note (w : World ρ) (id : Nat) (s : Signal ρ) : World ρ :=
  (w.signal id s).1

def isQueued (w : World ρ) (id : Nat) : Bool :=
  w.queue.any fun
    | .flow other => other = id
    | _ => false

/-- Makes the task of an execution ready, if anyone polls it. -/
def wake (w : World ρ) (id : Nat) : World ρ :=
  match w.flows[id]? with
  | some flow => if flow.mode = .running ∧ !w.isQueued id then w.enqueue (.flow id) else w
  | none => w

def stage? (w : World ρ) (id : Nat) : Option (Stage ρ) :=
  w.flows[id]?.map fun flow => flow.execution.stage

/-- What joining the task of an execution gives so far. -/
def joined? (w : World ρ) (id : Nat) : Option (Result ρ) := do
  let flow ← w.flows[id]?
  flow.execution.result?.or (if flow.mode = .cancelled then some (.error .cancelled) else none)

end World
end CqlOperations.Simulation
