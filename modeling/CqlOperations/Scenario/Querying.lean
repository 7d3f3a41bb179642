import CqlOperations.Datum.Session
import CqlOperations.Session.Extraction
import CqlOperations.Session.Node
import CqlOperations.Simulation.Report
import CqlOperations.Simulation.Run

/-! Calls of a program whose session has a scripted node. -/
namespace CqlOperations

open Simulation

namespace Node

def treatment (n : Node) : Treatment Response := fun statement _ =>
  { ending := match n.respond statement with
      | .ok response => .answered response
      | .error failure => .failed failure }

/-- Failures to prepare are translated like those of requests. -/
def preparer (n : Node) (t : Translator) : Preparer := fun text => .returned <|
  match n.prepare text with
  | .ok _ => .ok ()
  | .error error => .error (t.translateFailure (.prepare (.allAttemptsFailed error)))

end Node

namespace Scenario

/-- What is made of a response. Rows are handed out as lists. -/
inductive View where
  | response
  | mapRows (reader : RowReader Datum)
  | firstRow (reader : RowReader Datum)
  | singleRow (reader : RowReader Datum)
  | hasRow
  | rowCount

def View.apply {σ : Type} (v : View) (o : Operation σ Response) : Operation σ Response :=
  match v with
  | response => o
  | mapRows reader => o.mapRows reader id
  | firstRow reader => o.firstRow reader id
  | singleRow reader => o.singleRow reader id
  | hasRow => o.hasRow
  | rowCount => o.rowCount

def rowReader? : String → Option (RowReader Datum)
  | "bigint" => some ((RowReader.one .bigint).map fun n => .list [.number n])
  | "int" => some ((RowReader.one .int).map fun n => .list [.number n])
  | "text" => some ((RowReader.one .text).map fun s => .list [.text s])
  | "boolean" => some ((RowReader.one .boolean).map fun b => .list [.flag b])
  | "opt_int" =>
    some ((RowReader.one (.optional .int)).map fun n => .list [.ofOption (n.map .number)])
  | "int_text" => some ((RowReader.two .int .text).map fun (n, s) => .list [.number n, .text s])
  | "any" => some ((RowReader.every .any).map fun values => .list (Value.optionsToData values))
  | _ => none

/-- What operation is run. -/
inductive Subject where
  | operation (blueprint : Blueprint Response) (view : View)
  | countAll (table : String)
  | text (text : String)

/-- How a result is got. -/
inductive Way where
  | execute
  | executeWithin
  | submit
  | wait
  | waitWithin
  | callback

inductive Call where
  | prepare (text : String)
  | run (subject : Subject) (changes : List Change) (way : Way)

/-- An answer of the callback or of the handler at the other side, or of the call itself. -/
inductive CallAnswer where
  | direct (answer : Answer Response)
  | delivered (output : Output Response)
  | reported (error : OperationError)
  | prepared (text : String) (markers : Nat)

/-- A batch is shown by the outcomes of its statements. -/
def outputDatum : Output Response → Datum
  | .batch b => .list (b.slots.map (Slot.toDatum Response.toDatum))
  | output => output.toDatum Response.toDatum

def CallAnswer.toDatum : CallAnswer → Datum
  | direct (.result (.ok output)) => .record [("ok", outputDatum output)]
  | direct answer => answer.toDatum Response.toDatum
  | delivered output => .record [("callback", outputDatum output)]
  | reported error => .record [("handler", error.toDatum)]
  | prepared text markers =>
    .record [("ok", .record [("cql", .text text), ("params", .ofNat markers)])]

/-- What a call comes to, and the requests that the node saw. -/
structure CallOutcome where
  answer : CallAnswer
  requests : List Request
  events : List (Event Response)

namespace Call

/-- More time than any call takes. -/
def ample : Duration := .ofParts 60 0

/-- The handler of a call with a callback gets what the callback does not. -/
def otherSide : Handler := ⟨"callback"⟩

def runOperation (s : Scene Response) (o : Operation String Response) :
    Way → Scene Response × Answer Response
  | .execute => s.execute o
  | .submit | .wait => s.executeDetached o none
  | .executeWithin | .waitWithin => s.executeDetached o (some ample)
  | .callback => s.callback (o.set (.handler otherSide)) otherSide.name

/-- The operation of a call, with its options changed. -/
def build (s : Scene Response) (changes : List Change) :
    Subject → Scene Response × Outcome (Except OperationError (Operation String Response))
  | .operation blueprint view =>
    match s.build blueprint with
    | (s, .returned made) =>
      (s, .returned (made.map fun (o, _) => view.apply (Scene.changeAll o changes)))
    | (s, .panicked message) => (s, .panicked message)
  | .countAll table =>
    (s, .returned (.ok (Scene.changeAll (s.template.countAll s.defaults table) changes)))
  | .text text =>
    (s, .returned (.ok (s.template.execute s.defaults (.constant (Statement.ofText text)))))

/-- What went to the other side, if that is the event. -/
def ofEvent? : Event Response → Option CallAnswer
  | .callback _ output => some (.delivered output)
  | .handler report => if report.handler = otherSide then some (.reported report.error) else none
  | _ => none

/-- The answer of a call, for which everything runs that can run without time passing. -/
def answer (node : Node) (s : Scene Response) : Call → Scene Response × CallAnswer
  | prepare text =>
    (s, match s.prepare text with
      | .returned (.ok ()) => .prepared text (node.entry text).markers.length
      | .returned (.error error) => .direct (.error error)
      | .panicked message => .direct (.panicked message))
  | run subject changes way =>
    match build s changes subject with
    | (s, .returned (.ok operation)) =>
      let (s, direct) := runOperation s operation way
      let s := s.mapWorld World.settle
      match way with
      | .callback => (s, (s.world.events.findSome? ofEvent?).getD (.direct direct))
      | _ => (s, .direct direct)
    | (s, .returned (.error error)) => (s, .direct (.error error))
    | (s, .panicked message) => (s, .direct (.panicked message))

/-- Calls one after another, all over the same session. -/
def runAll (node : Node) (s : Scene Response) : List Call → List CallOutcome
  | [] => []
  | call :: rest =>
    let (s, answer) := call.answer node s
    let requests := s.world.events.filterMap fun
      | .received statement => (node.request statement).toOption
      | _ => none
    let events := s.world.events.filter fun
      | .handler report => report.handler ≠ otherSide
      | .executor _ => true
      | _ => false
    ⟨answer, requests, events⟩ :: runAll node (s.mapWorld fun w => { w with events := [] }) rest

end Call

/-- A session over the node, with a template of its own. -/
def openSession (node : Node) (t : Translator) (defaults : List Setting) : Scene Response :=
  .setUp
    { treatment := node.treatment
      prepare := node.preparer t
      translator := t
      defaults
      threaded := true }

end Scenario
end CqlOperations
