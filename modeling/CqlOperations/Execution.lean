import CqlOperations.Notifier
import CqlOperations.Output
import CqlOperations.Translator

/-! One execution of an operation, from its requests to its result.

An execution takes down what happens to its requests and to the task of its current processor, and
moves on only when it is polled. What it wants done is handed out as actions. -/
namespace CqlOperations

/-- How a request ended. -/
inductive Resolution (ρ : Type) where
  | answered (reply : ρ)
  | failed (failure : Backend.Failure)
  | panicked (message : String)
  | cancelled

/-- A request of a batch runs on a task of its own, which may panic or be cancelled alone. -/
def Slot.ofResolution {ρ : Type} (t : Translator) : Resolution ρ → Slot ρ
  | .answered reply => .ok reply
  | .failed failure => .failed (t.translateFailure failure)
  | .panicked message => .failed (.panicked message)
  | .cancelled => .absent

/-- What an execution waits for first. -/
inductive Gathering (ρ : Type) where
  | known (result : Result ρ)
  | single (result : Option (Except OperationError ρ))
  | fanOut (slots : List (Option (Slot ρ)))

namespace Gathering

variable {ρ : Type}

/-- The slots, once all of them are there. -/
def settled? : List (Option (Slot ρ)) → Option (List (Slot ρ))
  | [] => some []
  | none :: _ => none
  | some slot :: rest => (settled? rest).map (slot :: ·)

def result? : Gathering ρ → Option (Result ρ)
  | known result => some result
  | single result => result.map fun r => r.map .reply
  | fanOut slots => (settled? slots).map fun slots => .ok (.batch ⟨slots⟩)

end Gathering

/-- Where the result of an execution goes. -/
inductive Path where
  | caller
  | callback
deriving DecidableEq

/-- What an execution wants done, in order. Reports, processors and deliveries are tasks for the
executor. -/
inductive Action (ρ : Type) where
  | report (report : Report)
  | process (processor : Processor ρ) (input : Output ρ)
  | deliver (output : Output ρ)
  | observe (submission : String)

/-- The processors of a stage are those still to run, the next one first. While one is running they
are those after it. -/
inductive Stage (ρ : Type) where
  | gathering (requests : Gathering ρ) (processors : List (Processor ρ))
  | processing (processors : List (Processor ρ)) (processed : Option (Result ρ))
  | ended (result : Result ρ)
  | unwound (message : String)

structure Execution (ρ : Type) where
  translator : Translator
  path : Path
  notifier : Notifier
  stage : Stage ρ

/-- What happens to an execution from outside. -/
inductive Signal (ρ : Type) where
  | resolved (request : Nat) (resolution : Resolution ρ)
  | processed (result : Result ρ)
  | dropped
  | unwound (message : String)
  | polled

namespace Execution

variable {ρ : Type}

def reports (rs : List Report) : List (Action ρ) :=
  rs.map .report

/-- Ends the execution. On the callback path a success is delivered and an error reported, unless
something was reported before. -/
def finish (x : Execution ρ) (result : Result ρ) : Execution ρ × List (Action ρ) :=
  let ended := { x with stage := .ended result }
  match x.path, result with
  | .caller, _ => (ended, [])
  | .callback, .ok output => (ended, [.deliver output])
  | .callback, .error error =>
    let (notifier, rs) := x.notifier.notify error 0
    ({ ended with notifier := notifier }, reports rs)

/-- Ends with an error that passes `level` processors unprocessed; each gives up what it holds. -/
def fail (x : Execution ρ) (level : Nat) (error : OperationError) :
    Execution ρ × List (Action ρ) :=
  let (notifier, rs) := x.notifier.releaseAll level
  let (x, rest) := { x with notifier := notifier }.finish (.error error)
  (x, reports rs ++ rest)

/-- Goes on with an output: to the next processor, or to the end. -/
def proceed (x : Execution ρ) (output : Output ρ) :
    List (Processor ρ) → Execution ρ × List (Action ρ)
  | [] => x.finish (.ok output)
  | processor :: rest =>
    ({ x with stage := .processing rest none }, [.process processor output])

/-- The first result, of the requests. A batch reports its first failure to the innermost level. -/
def gathered (x : Execution ρ) (processors : List (Processor ρ)) :
    Result ρ → Execution ρ × List (Action ρ)
  | .error error => x.fail processors.length error
  | .ok output =>
    let (notifier, rs) := match output.failure? with
      | some error => x.notifier.notify error processors.length
      | none => (x.notifier, [])
    let (x, rest) := { x with notifier := notifier }.proceed output processors
    (x, reports rs ++ rest)

/-- The result of a processor. A success lets go of what was held while it ran, an error takes the
place of that. -/
def processed (x : Execution ρ) (processors : List (Processor ρ)) :
    Result ρ → Execution ρ × List (Action ρ)
  | .error error =>
    let (notifier, rs) := x.notifier.notify error processors.length
    let (x, rest) := { x with notifier := notifier }.fail processors.length error
    (x, reports rs ++ rest)
  | .ok output =>
    let (notifier, rs) := x.notifier.release processors.length
    let (x, rest) := { x with notifier := notifier }.proceed output processors
    (x, reports rs ++ rest)

/-- Moves on if what the execution waits for is there. -/
def poll (x : Execution ρ) : Execution ρ × List (Action ρ) :=
  match x.stage with
  | .gathering requests processors =>
    match requests.result? with
    | some result => x.gathered processors result
    | none => (x, [])
  | .processing processors (some result) => x.processed processors result
  | _ => (x, [])

/-- Takes down how a request ended. The request of a single statement runs on the task of the
execution and takes it along when it panics. -/
def resolve (x : Execution ρ) (request : Nat) (resolution : Resolution ρ) : Execution ρ :=
  match x.stage with
  | .gathering (.single none) processors =>
    match resolution with
    | .answered reply => { x with stage := .gathering (.single (some (.ok reply))) processors }
    | .failed failure =>
      let error := x.translator.translateFailure failure
      { x with stage := .gathering (.single (some (.error error))) processors }
    | .panicked message => { x with stage := .unwound message }
    | .cancelled => x
  | .gathering (.fanOut slots) processors =>
    let slot := Slot.ofResolution x.translator resolution
    let slots := slots.modify request fun old => old.or (some slot)
    { x with stage := .gathering (.fanOut slots) processors }
  | _ => x

/-- Takes down the result of the running processor. -/
def acceptProcessed (x : Execution ρ) (result : Result ρ) : Execution ρ :=
  match x.stage with
  | .processing processors none => { x with stage := .processing processors (some result) }
  | _ => x

/-- The task of the execution panicked before its end. -/
def unwind (x : Execution ρ) (message : String) : Execution ρ :=
  match x.stage with
  | .ended _ => x
  | .unwound _ => x
  | _ => { x with stage := .unwound message }

def handle (x : Execution ρ) : Signal ρ → Execution ρ × List (Action ρ)
  | .resolved request resolution => (x.resolve request resolution, [])
  | .processed result => (x.acceptProcessed result, [])
  | .dropped => (x.acceptProcessed (.error .taskDropped), [])
  | .unwound message => (x.unwind message, [])
  | .polled => x.poll

/-- All actions of a sequence of signals, in order. -/
def run (x : Execution ρ) : List (Signal ρ) → Execution ρ × List (Action ρ)
  | [] => (x, [])
  | signal :: rest =>
    let (x, first) := x.handle signal
    let (x, more) := x.run rest
    (x, first ++ more)

/-- The result that joining the task of the execution gives, once it is over. -/
def result? (x : Execution ρ) : Option (Result ρ) :=
  match x.stage with
  | .ended result => some result
  | .unwound message => some (.error (.panicked message))
  | _ => none

/-- Whether the request of a single statement is still to run. -/
def awaitsRequest (x : Execution ρ) : Bool :=
  match x.stage with
  | .gathering (.single none) _ => true
  | _ => false

/-- A result that is known without any request or processor. -/
def known? (x : Execution ρ) : Option (Result ρ) :=
  match x.stage with
  | .gathering (.known result) [] => some result
  | _ => none

end Execution
end CqlOperations
