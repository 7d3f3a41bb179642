import CqlOperations.Simulation.Clock
import CqlOperations.Simulation.Script

/-! Calls of a program that uses operations: what they do to the world and what they answer. -/
namespace CqlOperations.Simulation

/-- A handle to a pending result, or an execution that only moves on while it is awaited. -/
inductive Handle (ρ : Type) where
  | pending (handle : Pending Nat ρ)
  | started (flow : Nat)

/-- Operations and handles are known by names. `state` is what creators read. -/
structure Scene (ρ : Type) where
  world : World ρ
  threaded : Bool
  prepare : Preparer
  template : Template
  defaults : Defaults
  operations : List (String × Operation String ρ) := []
  handles : List (String × Handle ρ) := []
  state : String := ""

/-- On real threads it does not matter how long anything takes. -/
structure Setup (ρ : Type) where
  treatment : Treatment ρ
  prepare : Preparer
  translator : Translator := .standard
  defaults : List Setting := []
  threaded : Bool := false

/-- The runtime of the template. -/
def Setup.runtime {ρ : Type} (s : Setup ρ) : Runtime :=
  if s.threaded then .multiThread else .currentThread

namespace Scene

variable {ρ : Type}

def setUp (s : Setup ρ) : Scene ρ :=
  let (template, defaults) :=
    Template.create ⟨0⟩ s.translator s.runtime (Options.ofSettings s.defaults) {}
  { world := { treatment := s.treatment }, threaded := s.threaded, prepare := s.prepare
    template, defaults }

def mapWorld (s : Scene ρ) (f : World ρ → World ρ) : Scene ρ :=
  { s with world := f s.world }

def removeHandle (s : Scene ρ) (name : String) : Scene ρ :=
  { s with handles := s.handles.filter fun (other, _) => other != name }

/-- Lets go of a handle. Only an execution that nobody else polls is dropped with it. -/
def dropHandle (s : Scene ρ) (name : String) : Scene ρ :=
  match s.handles.lookup name with
  | some (.started flow) => (s.mapWorld (·.dropFlow flow)).removeHandle name
  | _ => s.removeHandle name

def setHandle (s : Scene ρ) (name : String) (handle : Handle ρ) : Scene ρ :=
  let s := s.dropHandle name
  { s with handles := (name, handle) :: s.handles }

/-- Submits an operation for a callback or a caller. The requests of a batch are spawned at once. -/
def launch (s : Scene ρ) (o : Operation String ρ) (path : Path) (name : String) :
    Scene ρ × Except OperationError Nat :=
  let (submitted, actions, state) := o.submit path s.state
  let s := { s with state }
  let executor := o.options.taskExecutor
  let id := s.world.flows.length
  match submitted with
  | .error error => (s.mapWorld (·.perform id executor name actions), .error error)
  | .ok submission =>
    let fanOut := match o.base with
      | .fanOut .. => !submission.statements.isEmpty
      | _ => false
    let flow : Flow ρ :=
      { execution := submission.execution
        requests := submission.statements.map ({ statement := · })
        fanOut, executor, name, mode := .running, layers := o.layers.length }
    let flow := if s.world.down then flow.cancelRequests else flow
    let jobs := if fanOut && !s.world.down then
        (List.range flow.requests.length).map (Job.request id)
      else []
    let world := { s.world with flows := s.world.flows ++ [flow], queue := s.world.queue ++ jobs }
    ({ s with world := world.perform id executor name actions }, .ok id)

/-- Leaves an execution to the runtime. -/
def spawn (s : Scene ρ) (id : Nat) : Scene ρ :=
  if s.world.down then s.mapWorld (·.modifyFlow id Flow.cancelTask)
  else s.mapWorld (·.wake id)

/-- Polls an execution on behalf of a caller, who waits for its end. -/
def drive (s : Scene ρ) (id : Nat) : Scene ρ × Answer ρ :=
  let world := s.world.driveFlow id
  match world.stage? id with
  | some (.ended result) => ({ s with world }, .result result)
  | some (.unwound message) => ({ s with world }, .panicked message)
  | _ => ({ s with world := world.dropFlow id }, .stuck)

/-- Waits for a handle, at most for `limit` if there is one, and takes its result. -/
def awaitPending (s : Scene ρ) (handle : Pending Nat ρ) (limit : Option Duration) :
    Scene ρ × Pending Nat ρ × Answer ρ :=
  let bound := limit.filter (·.ceilMilliseconds ≤ patience)
  let time := (bound.map Duration.ceilMilliseconds).getD patience
  let world := match handle with
    | .inFlight task =>
      if s.world.down then s.world else s.world.waitFor task (s.world.now + time)
    | _ => s.world
  match bound with
  | some limit =>
    let (handle, result) := handle.waitWithin limit s.world.joined? world.joined?
    ({ s with world }, handle, .result result)
  | none =>
    match handle.wait s.world.joined? world.joined? with
    | (handle, some result) => ({ s with world }, handle, .result result)
    | (handle, none) => ({ s with world }, handle, .stuck)

/-- Waits in the context of the caller. A limit needs a timer, and a timer needs a runtime. -/
def awaitInContext (s : Scene ρ) (handle : Pending Nat ρ) (limit : Option Duration) :
    Scene ρ × Pending Nat ρ × Answer ρ :=
  if s.world.down ∧ limit.isSome then (s, handle, .panicked Runtime.missing)
  else s.awaitPending handle limit

/-- Lets time pass, for as long as any call may wait. -/
def sleep (s : Scene ρ) (milliseconds : Nat) : Scene ρ × Answer ρ :=
  if s.world.down then (s, .panicked Runtime.missing)
  else
    (s.mapWorld fun w => w.sleepUntil (w.now + min milliseconds patience),
      if milliseconds ≤ patience then .done else .stuck)

/-- Submits an operation and leaves it to the runtime, unless its result is known already. -/
def submit (s : Scene ρ) (o : Operation String ρ) :
    Scene ρ × Except OperationError (Pending Nat ρ) :=
  match s.launch o .caller "" with
  | (s, .error error) => (s, .error error)
  | (s, .ok id) =>
    match s.world.flows[id]?.map fun flow => Pending.ofExecution flow.execution id with
    | some (.ready result) => (s, .ok (.ready result))
    | _ => (s.spawn id, .ok (.inFlight id))

def execute (s : Scene ρ) (o : Operation String ρ) : Scene ρ × Answer ρ :=
  match s.launch o .caller "" with
  | (s, .error error) => (s, .error error)
  | (s, .ok id) => s.drive id

/-- Leaves an operation to the runtime and waits for its result, at most for `limit` if there is
one. -/
def executeDetached (s : Scene ρ) (o : Operation String ρ) (limit : Option Duration) :
    Scene ρ × Answer ρ :=
  match s.submit o with
  | (s, .error error) => (s, .error error)
  | (s, .ok handle) =>
    let (s, _, answer) := s.awaitInContext handle limit
    (s, answer)

/-- Submits an operation whose result goes to a callback or to the failure handler. -/
def callback (s : Scene ρ) (o : Operation String ρ) (name : String) : Scene ρ × Answer ρ :=
  match s.launch o .callback name with
  | (s, .error error) => (s, .error error)
  | (s, .ok id) => (s.spawn id, .done)

/-- Polls an operation once and keeps it if it is not over. -/
def start (s : Scene ρ) (o : Operation String ρ) (name : String) : Scene ρ × Answer ρ :=
  match s.launch o .caller "" with
  | (s, .error _) => (s, .started true)
  | (s, .ok id) =>
    let s := s.mapWorld (·.pollFlow id)
    match s.world.stage? id with
    | some (.ended _) => (s, .started true)
    | some (.unwound message) => (s, .panicked message)
    | _ =>
      let s := s.mapWorld (·.modifyFlow id fun flow => { flow with mode := .shelved })
      (s.setHandle name (.started id), .started false)

/-- Runs `f` on a handle to a pending result. Any other handle is let go. -/
def withPending (s : Scene ρ) (name : String)
    (f : Scene ρ → Pending Nat ρ → Scene ρ × Answer ρ) : Scene ρ × Answer ρ :=
  match s.handles.lookup name with
  | some (.pending handle) => f s handle
  | _ => (s.dropHandle name, .noHandle)

def withOperation (s : Scene ρ) (id : String)
    (f : Scene ρ → Operation String ρ → Scene ρ × Answer ρ) : Scene ρ × Answer ρ :=
  match s.operations.lookup id with
  | some operation => f s operation
  | none => (s, .noOperation)

def pendingAnswer (s : Scene ρ) (handle : Pending Nat ρ) (always : Bool) : Answer ρ :=
  let finished := if s.threaded && !always then none else some (handle.isFinished s.world.joined?)
  .pending finished handle.text

/-- Waits for a handle and keeps it. -/
def join (s : Scene ρ) (name : String) (handle : Pending Nat ρ) (limit : Option Duration) :
    Scene ρ × Answer ρ :=
  let (s, handle, answer) := s.awaitInContext handle limit
  (s.setHandle name (.pending handle), answer)

/-- Blocks on a handle, in the context of its runtime. A single thread cannot block before the
result is there. -/
def block (s : Scene ρ) (name : String) (limit : Option Duration) (consume : Bool) :
    Scene ρ × Answer ρ :=
  s.withPending name fun s handle =>
    if !s.threaded && !handle.isFinished s.world.joined? then (s, .wouldBlock)
    else
      let (s, handle, answer) := s.awaitPending handle limit
      (if consume then s.removeHandle name else s.setHandle name (.pending handle), answer)

end Scene
end CqlOperations.Simulation
