import CqlOperations.Creator
import CqlOperations.Execution
import CqlOperations.Statement.Fold

/-! Operations: units of work that can be configured and executed any number of times. -/
namespace CqlOperations

/-- What an operation runs, over a state `σ` that its creators read and replies `ρ`. -/
inductive Base (σ ρ : Type) where
  | single (creator : Creator σ)
  | fanOut (type : BatchType) (creators : List (Creator σ))
  | known (statement : Statement) (result : Result ρ)

/-- What an operation is wrapped in. A probe notifies errors of its own before and after the wrapped
operation is submitted, and observes its submission. -/
inductive Layer (ρ : Type) where
  | transform (processor : Processor ρ)
  | probe (before after : List OperationError)

/-- All layers of an operation share its options. The innermost layer comes first. -/
structure Operation (σ ρ : Type) where
  translator : Translator
  runtime : Runtime
  base : Base σ ρ
  layers : List (Layer ρ) := []
  options : Options := {}

/-- A submitted operation. The statements of a batch are sent at once, each on a task of its own;
that of a single one is sent when the execution is first polled. -/
structure Submission (ρ : Type) where
  execution : Execution ρ
  statements : List Statement

namespace Operation

variable {σ ρ : Type}

def change (o : Operation σ ρ) (c : Change) : Operation σ ρ :=
  { o with options := o.options.change c }

def set (o : Operation σ ρ) (setting : Setting) : Operation σ ρ :=
  o.change (.set setting)

def withOptions (o : Operation σ ρ) (options : Options) : Operation σ ρ :=
  o.change (.replace options)

def wrap (o : Operation σ ρ) (layer : Layer ρ) : Operation σ ρ :=
  { o with layers := o.layers ++ [layer] }

def transform (o : Operation σ ρ) (processor : Processor ρ) : Operation σ ρ :=
  o.wrap (.transform processor)

/-- The operation inside of the outermost layer, if that is a transform. -/
def delegate? (o : Operation σ ρ) : Option (Operation σ ρ) :=
  match o.layers.getLast? with
  | some (.transform _) => some { o with layers := o.layers.dropLast }
  | _ => none

/-- The processors, in the order they run in. -/
def processors (o : Operation σ ρ) : List (Processor ρ) :=
  o.layers.filterMap fun
    | .transform processor => some processor
    | .probe .. => none

/-- The statements of one execution with the options applied, all of them or none. -/
def createStatements (o : Operation σ ρ) (state : σ) :
    Except CreationError (List Statement) × σ :=
  match o.base with
  | .single creator =>
    let (created, state) := Creator.createAll [creator] state
    (created.map fun statements => statements.map (Statement.apply o.options), state)
  | .fanOut _ creators =>
    let (created, state) := Creator.createAll creators state
    (created.map fun statements => statements.map (Statement.apply o.options), state)
  | .known _ _ => (.ok [], state)

/-- The one statement that stands for the operation: a batch is folded. -/
def toStatement (o : Operation σ ρ) (state : σ) : Except OperationError Statement × σ :=
  match o.base with
  | .single creator =>
    let (created, state) := creator.create state
    (match created with
      | .ok statement => .ok (statement.apply o.options)
      | .error error => .error (.statementCreation error), state)
  | .fanOut type _ =>
    let (created, state) := o.createStatements state
    (match created with
      | .error error => .error (.statementCreation error)
      | .ok statements =>
        match Statement.fold type statements with
        | .ok batch => .ok (batch.apply o.options)
        | .error error => .error (.usage error), state)
  | .known statement _ => (.ok (statement.apply o.options), state)

/-- The operation that runs the statement as it is now; creators are not called again. -/
def folded (o : Operation σ ρ) (state : σ) : Except OperationError (Operation σ ρ) × σ :=
  let (statement, state) := o.toStatement state
  (statement.map fun statement => { o with base := .single (.constant statement) }, state)

/-- What the requests of these statements come to is gathered first. -/
def gathering (o : Operation σ ρ) (statements : List Statement) : Gathering ρ :=
  match o.base with
  | .single _ => .single none
  | .fanOut _ _ =>
    if statements.isEmpty then .known (.ok (.batch ⟨[]⟩))
    else .fanOut (statements.map fun _ => none)
  | .known _ result => .known result

/-- The structural text of a submission with `transforms` transforms around it. -/
def submissionText (gathering : Gathering ρ) (transforms : Nat) : String :=
  match gathering, transforms with
  | .known (.ok _), 0 => Text.tuple "Ready" [Text.tuple "Ok" [".."]]
  | .known (.error error), 0 => Text.tuple "Ready" [error.describe]
  | _, _ => "Pending"

def Layer.isTransform : Layer ρ → Bool
  | .transform _ => true
  | .probe .. => false

/-- What the layers do while the operation is submitted, the outermost layer first. The gathering is
missing if the statements could not be created. -/
def announce (gathering? : Option (Gathering ρ)) (notifier : Notifier) (level : Nat) :
    List (Layer ρ) → Notifier × List (Action ρ)
  | [] => (notifier, [])
  | .transform _ :: inner => announce gathering? notifier (level + 1) inner
  | .probe before after :: inner =>
    let (notifier, first) := notifier.notifyAll level before
    let (notifier, actions) := announce gathering? notifier level inner
    let started := first.map Action.report ++ actions
    match gathering? with
    | none => (notifier, started)
    | some gathering =>
      let text := submissionText gathering (inner.countP Layer.isTransform)
      let (notifier, last) := notifier.notifyAll level after
      (notifier, started ++ [.observe text] ++ last.map Action.report)

/-- Creates the statements and starts the execution. Nothing is sent if a creator fails. -/
def submit (o : Operation σ ρ) (path : Path) (state : σ) :
    Except OperationError (Submission ρ) × List (Action ρ) × σ :=
  let (created, state) := o.createStatements state
  let processors := o.processors
  let fresh := Notifier.ofLevels o.options.handler processors.length
  match created with
  | .error error =>
    let (_, actions) := announce none fresh 0 o.layers.reverse
    (.error (.statementCreation error), actions, state)
  | .ok statements =>
    let gathering := o.gathering statements
    let (notifier, actions) := announce (some gathering) fresh 0 o.layers.reverse
    let execution : Execution ρ :=
      { translator := o.translator, path, notifier, stage := .gathering gathering processors }
    (.ok ⟨execution, statements⟩, actions, state)

end Operation
end CqlOperations
