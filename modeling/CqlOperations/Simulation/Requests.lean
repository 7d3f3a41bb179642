import CqlOperations.Simulation.World

/-! Requests on their way through the scripted backend. -/
namespace CqlOperations.Simulation.World

variable {ρ : Type}

def setPhase (w : World ρ) (id position : Nat) (phase : Phase ρ) : World ρ :=
  w.modifyFlow id fun flow =>
    { flow with requests := flow.requests.modify position fun r => { r with phase } }

/-- The job that moves a request on: its own, or that of its execution. -/
def requestJob (w : World ρ) (id position : Nat) : Job ρ :=
  match w.flows[id]? with
  | some flow => if flow.fanOut then .request id position else .flow id
  | none => .flow id

/-- The end of a request. Only one with a task of its own has to wake the execution. -/
def resolveRequest (w : World ρ) (id position : Nat) (r : Resolution ρ) : World ρ :=
  let w := (w.setPhase id position .over).note id (.resolved position r)
  match w.requestJob id position with
  | .request .. => w.wake id
  | _ => w

/-- Ends a request as its stub has it. A panic comes before the request is done. -/
def finishRequest (w : World ρ) (id position : Nat) (key : String) (stub : Stub ρ) : World ρ :=
  match stub.ending with
  | .panicked message => w.resolveRequest id position (.panicked message)
  | ending => (w.log (.done key)).resolveRequest id position ending

/-- Takes a permit, if the stub asks for one and there is one, or waits for it in line. -/
def enterGate (w : World ρ) (id position : Nat) (key : String) (stub : Stub ρ) : World ρ :=
  if !stub.gated then w.finishRequest id position key stub
  else if key ∈ w.permits then
    { w with permits := w.permits.erase key }.finishRequest id position key stub
  else
    { w with waiters := w.waiters ++ [(⟨key, id, position⟩ : Waiter)] }.setPhase id position
      (.waiting stub)

/-- Moves a request on until it has to wait. Without a runtime there is no sleep to begin or to wake
from. -/
def pollRequest (w : World ρ) (id position : Nat) : World ρ :=
  match w.flows[id]?.bind (·.requests[position]?) with
  | none => w
  | some request =>
    let key := request.statement.key
    match request.phase with
    | .fresh =>
      let stub := w.treatment request.statement (w.received.count key)
      let w := { w with received := key :: w.received }.log (.received request.statement)
      match stub.delay with
      | none => w.enterGate id position key stub
      | some delay =>
        if w.down then w.resolveRequest id position (.panicked Runtime.missing)
        else if delay = 0 then w.enterGate id position key stub
        else
          let due := w.now + delay
          let timer : Timer ρ := ⟨due, w.requestJob id position⟩
          { w with timers := w.timers ++ [timer] }.setPhase id position (.sleeping due stub)
    | .sleeping due stub =>
      if w.down then w.resolveRequest id position (.panicked Runtime.gone)
      else if w.now < due then w
      else w.enterGate id position key stub
    | .admitted stub => w.finishRequest id position key stub
    | .waiting _ => w
    | .over => w

/-- Gives a permit to the first request that waits for one, or keeps it for later. -/
def release (w : World ρ) (key : String) : World ρ :=
  match w.waiters.find? (·.key = key) with
  | none => { w with permits := key :: w.permits }
  | some waiter =>
    let w := { w with waiters := w.waiters.eraseP (·.key = key) }.modifyFlow waiter.flow fun flow =>
      { flow with requests := flow.requests.modify waiter.position Request.grant }
    match w.requestJob waiter.flow waiter.position with
    | .flow id => w.wake id
    | job => w.enqueue job

/-- Lets go of an execution. A request on the same task gives back its permit or its place in line;
requests on tasks of their own go on. -/
def dropFlow (w : World ρ) (id : Nat) : World ρ :=
  match w.flows[id]? with
  | none => w
  | some flow =>
    let w := w.modifyFlow id fun flow => { flow with mode := .dropped }
    if flow.fanOut then w
    else
      let w := { w with waiters := w.waiters.filter (·.flow ≠ id) }
      match flow.requests with
      | [⟨statement, .admitted _⟩] => w.release statement.key
      | _ => w

end CqlOperations.Simulation.World
