import CqlOperations.Simulation.World
import CqlOperations.Text.TaskNumber

/-! Tasks and the executors they are handed to. -/
namespace CqlOperations.Simulation.World

variable {ρ : Type}

/-- Runs a task. A panic of a processor is handed on. -/
def runTask (w : World ρ) : Task ρ → World ρ × Option String
  | .process id processor input =>
    let w := w.log (.transform processor.label)
    match processor.run input with
    | .returned result => ((w.note id (.processed result)).wake id, none)
    | .panicked message => ((w.note id .dropped).wake id, some message)
  | .report report => (w.log (.handler report), none)
  | .deliver name output => (w.log (.callback name output), none)
  | .complete handle result => (w.log (.completion handle result), none)

/-- Drops a task that will not run. -/
def dropTask (w : World ρ) : Task ρ → World ρ
  | .process id _ _ => (w.note id .dropped).wake id
  | _ => w

/-- Hands a task to an executor. A panic is handed on if the task ran on the spot. -/
def hand (w : World ρ) (t : Task ρ) : Executor → World ρ × Option String
  | .inline => w.runTask t
  | .blockingPool _ => (if w.down then w.dropTask t else w.enqueue (.work t), none)
  | .logged name discipline =>
    let w := w.log (.executor name)
    match discipline with
    | .runs => w.runTask t
    | .drops => (w.dropTask t, none)
    | .keeps => ({ w with kept := w.kept ++ [t] }, none)

/-- Does what an execution wants done. A panic on the way takes the execution along. -/
def perform (w : World ρ) (id : Nat) (executor : Executor) (name : String) :
    List (Action ρ) → World ρ
  | [] => w
  | action :: rest =>
    let (w, panic?) := match action with
      | .observe text => (w.log (.submission (Text.maskTaskNumbers text)), none)
      | .report report => w.hand (.report report) executor
      | .process processor input => w.hand (.process id processor input) executor
      | .deliver output => w.hand (.deliver name output) executor
    match panic? with
    | none => perform w id executor name rest
    | some message => w.note id (.unwound message)

/-- Runs kept tasks in order. The first that panics takes the rest with it. -/
def runKept (w : World ρ) : List (Task ρ) → World ρ × Option String
  | [] => (w, none)
  | task :: rest =>
    match w.runTask task with
    | (w, none) => runKept w rest
    | (w, some message) => (rest.foldl dropTask w, some message)

end CqlOperations.Simulation.World
