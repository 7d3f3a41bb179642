import CqlOperations.Text.Structural

/-! Executors: where processors, failure handlers and callbacks run. -/
namespace CqlOperations

/-- The kind of runtime that requests are spawned on. -/
inductive Runtime where
  | currentThread
  | multiThread
deriving DecidableEq

def Runtime.name : Runtime → String
  | currentThread => "CurrentThread"
  | multiThread => "MultiThread"

/-- The structural text of a handle to the runtime. -/
def Runtime.handleText : Runtime → String
  | currentThread => handle "CurrentThread" "current_thread"
  | multiThread => handle "MultiThread" "multi_thread"
where
  handle (name module : String) : String :=
    Text.record "Handle" [("inner", Text.tuple name [module ++ "::Handle \x7b ... \x7d"])]

/-- What a call outside of any runtime is told that needs one. -/
def Runtime.missing : String :=
  "there is no reactor running, must be called from the context of a Tokio 1.x runtime"

/-- What a timer is told whose runtime is gone. -/
def Runtime.gone : String :=
  "A Tokio 1.x context was found, but it is being shutdown."

/-- What an executor does with a task it is given. -/
inductive Discipline where
  | runs
  | drops
  | keeps
deriving DecidableEq

/-- A logged executor notes each task under its name before doing anything with it. -/
inductive Executor where
  | inline
  | blockingPool (runtime : Runtime)
  | logged (name : String) (discipline : Discipline)
deriving DecidableEq

namespace Executor

def text : Executor → String
  | inline => "InlineExecutor"
  | blockingPool runtime => Text.record "BlockingPoolExecutor" [("runtime", runtime.handleText)]
  | logged name _ => Text.tuple "Logged" [name]

/-- The discipline that a logged executor's name asks for, up to the first colon. -/
def disciplineOf (name : String) : Discipline :=
  match String.ofList (name.toList.takeWhile (· ≠ ':')) with
  | "dropping" => .drops
  | "deferred" => .keeps
  | _ => .runs

/-- The executor of that name on a runtime. -/
def named (runtime : Runtime) : String → Executor
  | "inline" => inline
  | "blocking" => blockingPool runtime
  | name => logged name (disciplineOf name)

end Executor
end CqlOperations
