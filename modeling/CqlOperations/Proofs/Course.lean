import CqlOperations.Operation
import CqlOperations.Pending

/-! The course of one execution under any schedule: its requests, its task and the executor move in
any order, one move at a time. A course is settled when no move changes it, and each one settles.
How the requests end and what the executor does with its tasks are given by an environment; how the
caller waits does not matter here. -/
namespace CqlOperations

/-- How each request ends, by position, and what the executor does with each task it is given, by
the number of tasks before. -/
structure Environment (ρ : Type) where
  outcome : Nat → Resolution ρ
  discipline : Nat → Discipline

/-- Where a request stands. -/
inductive Progress where
  | spawned
  | sent
  | ended
deriving DecidableEq

/-- One thing that happens. A move that is not possible changes nothing. -/
inductive Move where
  | poll
  | send (position : Nat)
  | resolve (position : Nat)
  | run (index : Nat)
deriving DecidableEq

/-- `sent` are the statements that the session received, `handed` all tasks that the executor was
given, `kept` those it has yet to run and `ran` those it ran, each in order. -/
structure Course (ρ : Type) where
  execution : Execution ρ
  statements : List Statement
  requests : List Progress
  sent : List (Nat × Statement) := []
  handed : List (Action ρ) := []
  kept : List (Action ρ) := []
  ran : List (Action ρ) := []

namespace Action

variable {ρ : Type}

def report? : Action ρ → Option Report
  | report r => some r
  | _ => none

def delivery? : Action ρ → Option (Output ρ)
  | deliver output => some output
  | _ => none

def process? : Action ρ → Option (Processor ρ × Output ρ)
  | process processor input => some (processor, input)
  | _ => none

end Action

namespace Course

variable {ρ : Type}

/-- All requests are there from the start; one for each statement. -/
def start (s : Submission ρ) : Course ρ where
  execution := s.execution
  statements := s.statements
  requests := s.statements.map fun _ => .spawned

/-- The calls of the failure handler so far. -/
def reports (c : Course ρ) : List Report :=
  c.ran.filterMap Action.report?

/-- What the callback was called with so far. -/
def deliveries (c : Course ρ) : List (Output ρ) :=
  c.ran.filterMap Action.delivery?

/-- The processors that ran so far, with what they ran on. -/
def processes (c : Course ρ) : List (Processor ρ × Output ρ) :=
  c.ran.filterMap Action.process?

/-- Tells the execution what happened; nothing is to be done at once. -/
def tell (c : Course ρ) (s : Signal ρ) : Course ρ :=
  { c with execution := (c.execution.handle s).1 }

/-- The session receives the statement of a request, at most once. -/
def send (c : Course ρ) (position : Nat) : Course ρ :=
  match c.requests[position]?, c.statements[position]? with
  | some .spawned, some statement =>
    { c with
      requests := c.requests.set position .sent
      sent := c.sent ++ [(position, statement)] }
  | _, _ => c

def finish (c : Course ρ) (position : Nat) (r : Resolution ρ) : Course ρ :=
  { c with requests := c.requests.set position .ended }.tell (.resolved position r)

/-- Ends a request. Only a cancelled one may end before its statement was sent. -/
def resolve (env : Environment ρ) (c : Course ρ) (position : Nat) : Course ρ :=
  match c.requests[position]?, env.outcome position with
  | some .sent, r => c.finish position r
  | some .spawned, .cancelled => c.finish position .cancelled
  | _, _ => c

/-- Runs a task. The panic of a processor drops what would tell its result, and goes on to whoever
runs it. -/
def runTask (c : Course ρ) (task : Action ρ) : Course ρ × Option String :=
  let c := { c with ran := c.ran ++ [task] }
  match task with
  | .process processor input =>
    match processor.run input with
    | .returned result => (c.tell (.processed result), none)
    | .panicked message => (c.tell .dropped, some message)
  | _ => (c, none)

def dropTask (c : Course ρ) : Action ρ → Course ρ
  | .process .. => c.tell .dropped
  | _ => c

/-- Hands a task to the executor. -/
def hand (env : Environment ρ) (c : Course ρ) (task : Action ρ) : Course ρ × Option String :=
  let given := { c with handed := c.handed ++ [task] }
  match env.discipline c.handed.length with
  | .runs => given.runTask task
  | .keeps => ({ given with kept := given.kept ++ [task] }, none)
  | .drops => (given.dropTask task, none)

/-- Hands over tasks in order. A panic of one that runs on the spot takes the execution along. -/
def perform (env : Environment ρ) (c : Course ρ) : List (Action ρ) → Course ρ
  | [] => c
  | task :: rest =>
    match c.hand env task with
    | (c, none) => perform env c rest
    | (c, some message) => c.tell (.unwound message)

/-- Polls the task of the execution, which a single statement is sent from. -/
def poll (env : Environment ρ) (c : Course ρ) : Course ρ :=
  let c := if c.execution.awaitsRequest then c.send 0 else c
  let (execution, tasks) := c.execution.handle .polled
  { c with execution }.perform env tasks

def step (env : Environment ρ) (c : Course ρ) : Move → Course ρ
  | .poll => c.poll env
  | .send position => if c.execution.awaitsRequest then c else c.send position
  | .resolve position => c.resolve env position
  | .run index =>
    match c.kept[index]? with
    | some task => ({ c with kept := c.kept.eraseIdx index }.runTask task).1
    | none => c

def run (env : Environment ρ) (c : Course ρ) (moves : List Move) : Course ρ :=
  moves.foldl (step env) c

/-- Nothing is left to happen. -/
def Settled (env : Environment ρ) (c : Course ρ) : Prop :=
  ∀ move, c.step env move = c

end Course
end CqlOperations
