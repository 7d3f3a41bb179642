import CqlOperations.Simulation.Requests
import CqlOperations.Simulation.Tasks

/-! Jobs run one at a time in the order they became ready, each until it has to wait. No job takes
time: the clock jumps to the next timer when nothing else can run. At any moment a caller goes
before the jobs that become ready then. -/
namespace CqlOperations.Simulation

variable {ρ : Type}

/-- How long a call may wait before it counts as stuck, in milliseconds. -/
def patience : Nat := 3600000

/-- Cancels the requests that run on tasks of their own. -/
def Flow.cancelRequests (f : Flow ρ) : Flow ρ :=
  if f.fanOut then
    { f with
      execution := (List.range f.requests.length).foldl
        (fun execution i => execution.resolve i .cancelled) f.execution
      requests := f.requests.map fun r => { r with phase := .over } }
  else f

/-- Cancels the task of the execution, unless it is over or belongs to a caller. -/
def Flow.cancelTask (f : Flow ρ) : Flow ρ :=
  if f.mode = .running ∧ f.execution.result?.isNone then { f with mode := .cancelled } else f

namespace World

/-- Wakes whoever waits for the end of an execution. -/
def wakeWatchers (w : World ρ) (id : Nat) : World ρ :=
  let isFor (v : Watcher ρ) : Bool := match v.handle with
    | .inFlight task => task = id
    | _ => false
  let (due, rest) := w.watchers.partition isFor
  { w with watchers := rest, queue := w.queue ++ due.map .watch }

/-- Polls an execution again and again while it gets on. -/
def advance (w : World ρ) (id : Nat) : Nat → World ρ
  | 0 => w
  | fuel + 1 =>
    match w.flows[id]? with
    | none => w
    | some flow =>
      let (w, actions) := w.signal id .polled
      if actions.isEmpty then w
      else advance (w.perform id flow.executor flow.name actions) id fuel

/-- Polls the task of an execution: its own request first, then what comes after it. -/
def pollFlow (w : World ρ) (id : Nat) : World ρ :=
  match w.flows[id]? with
  | none => w
  | some flow =>
    if flow.mode ≠ .running ∨ flow.execution.result?.isSome then w
    else
      let w := if flow.execution.awaitsRequest then w.pollRequest id 0 else w
      let w := w.advance id (2 * flow.layers + 4)
      if (w.joined? id).isSome then w.wakeWatchers id else w

def runJob (w : World ρ) : Job ρ → World ρ
  | .flow id => w.pollFlow id
  | .request id position => w.pollRequest id position
  | .work task => (w.runTask task).1
  | .watch watcher =>
    match (watcher.handle.poll w.joined?).2 with
    | some result => (w.hand (.complete watcher.name result) watcher.executor).1
    | none => { w with watchers := w.watchers ++ [watcher] }

def nextDue? (w : World ρ) : Option Nat :=
  (w.timers.map Timer.due).min?

/-- Moves the clock on and makes all jobs ready that are due by then, the caller's own first. -/
def fireTimers (w : World ρ) (due : Nat) : World ρ :=
  let (fired, rest) := w.timers.partition (·.due ≤ due)
  let isDriven : Job ρ → Bool
    | .flow id => w.driven = some id
    | _ => false
  let (own, others) := (fired.map Timer.job).partition isDriven
  { w with now := due, timers := rest, queue := w.queue ++ own ++ others }

/-- Runs jobs, and timers before `limit`, until `stop` holds. When nothing is left the clock goes to
the limit, and the jobs that are due then are yet to run. -/
def runUntil (w : World ρ) (limit : Nat) (stop : World ρ → Bool) : Nat → World ρ
  | 0 => w
  | fuel + 1 =>
    if stop w then w
    else match w.queue with
      | job :: rest => runUntil ({ w with queue := rest }.runJob job) limit stop fuel
      | [] =>
        match w.nextDue? with
        | some due =>
          if due < limit then runUntil (w.fireTimers due) limit stop fuel
          else w.fireTimers limit
        | none => w.fireTimers limit

/-- More steps than all executions together can take. -/
def fuel (w : World ρ) : Nat :=
  let perFlow := w.flows.map fun f => 4 + f.requests.length + f.layers
  64 + 16 * (perFlow.foldl (· + ·) 0 + w.queue.length + w.timers.length + w.watchers.length)

/-- Runs everything that can run without time passing. -/
def settle (w : World ρ) : World ρ :=
  w.runUntil w.now (fun _ => false) w.fuel

def sleepUntil (w : World ρ) (due : Nat) : World ρ :=
  w.runUntil due (fun _ => false) w.fuel

/-- Waits for the end of an execution. A wait that is over at once runs nothing. -/
def waitFor (w : World ρ) (id : Nat) (limit : Nat) : World ρ :=
  if limit ≤ w.now then w
  else w.runUntil limit (fun w => (w.joined? id).isSome) w.fuel

/-- Polls an execution in the place of a caller, until it is over or the caller's patience is. -/
def driveFlow (w : World ρ) (id : Nat) : World ρ :=
  let polled := { w with driven := some id }.pollFlow id
  let waited :=
    if polled.down then polled else (polled.waitFor id (polled.now + patience)).pollFlow id
  { waited with driven := none }

/-- The runtime is gone: its tasks are cancelled. A request on the task of a shelved execution keeps
its place in line. -/
def shutDown (w : World ρ) : World ρ :=
  let isShelved (v : Waiter) : Bool := match w.flows[v.flow]? with
    | some flow => !flow.fanOut && flow.mode = .shelved
    | none => false
  { w with
    down := true
    flows := w.flows.map fun flow => flow.cancelRequests.cancelTask
    queue := []
    timers := []
    waiters := w.waiters.filter isShelved
    watchers := [] }

end World
end CqlOperations.Simulation
