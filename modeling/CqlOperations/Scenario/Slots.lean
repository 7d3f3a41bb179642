import CqlOperations.Datum.Output
import CqlOperations.Statement.Recipe
import CqlOperations.Template

/-! Statements and options made step by step, each kept in a slot for the steps after it. -/
namespace CqlOperations.Scenario

/-- Options start empty or from those in a slot. -/
structure OptionsStep where
  from? : Option Nat := none
  settings : List Setting

/-- The builder of each step and all slots after it. -/
def buildOptions (slots : List Options) : List OptionsStep → List (Options.Builder × List Options)
  | [] => []
  | step :: rest =>
    let start := match step.from?.bind (slots[·]?) with
      | some options => options.toBuilder
      | none => Options.builder
    let builder := step.settings.foldl Options.Builder.set start
    let slots := slots ++ [builder.build]
    (builder, slots) :: buildOptions slots rest

inductive StatementStep where
  | make (recipe : Statement.Recipe)
  | rebind (slot : Nat) (values : List Value)
  | fold (slots : List Nat) (type : BatchType)
  | apply (slot : Nat) (settings : List Setting)

inductive StatementAnswer where
  | made (statement : Statement)
  | nothing
  | error (error : OperationError)
  | noStatement

def StatementAnswer.statement? : StatementAnswer → Option Statement
  | made statement => some statement
  | _ => none

def StatementAnswer.ofExcept : Except OperationError Statement → StatementAnswer
  | .ok statement => made statement
  | .error e => error e

def StatementAnswer.toDatum : StatementAnswer → Datum
  | made statement =>
    .record [("ok", statement.toDatum), ("regular", .flag statement.isRegular),
      ("debug", .text statement.describe)]
  | nothing => .record [("ok", .null)]
  | error e => e.toDatum
  | noStatement => .record [("error", .text "NoStatement")]

/-- What one step makes of the statements in the slots. -/
def StatementStep.run (prepare : Preparer) (slots : List (Option Statement)) :
    StatementStep → Outcome StatementAnswer
  | make recipe =>
    match recipe.make prepare with
    | .returned made => .returned (.ofExcept made)
    | .panicked message => .panicked message
  | rebind slot values => .returned <|
    match slots[slot]?.join with
    | none => .noStatement
    | some statement =>
      match statement.rebind? values with
      | some bound => .made bound
      | none => .nothing
  | fold positions type => .returned <|
    match positions.mapM fun position => slots[position]?.join with
    | none => .noStatement
    | some statements => .ofExcept ((Statement.fold type statements).mapError .usage)
  | apply slot settings => .returned <|
    match slots[slot]?.join with
    | none => .noStatement
    | some statement =>
      let operation : Operation Unit Unit :=
        { translator := .standard, runtime := .currentThread
          base := .single (.constant statement) }
      .ofExcept ((operation.withOptions (.ofSettings settings)).toStatement ()).1

def makeStatements (prepare : Preparer) (slots : List (Option Statement)) :
    List StatementStep → Outcome (List StatementAnswer)
  | [] => .returned []
  | step :: rest =>
    match step.run prepare slots with
    | .panicked message => .panicked message
    | .returned answer =>
      match makeStatements prepare (slots ++ [answer.statement?]) rest with
      | .panicked message => .panicked message
      | .returned answers => .returned (answer :: answers)

end CqlOperations.Scenario
