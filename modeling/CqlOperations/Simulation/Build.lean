import CqlOperations.Simulation.Scene

/-! Making operations from blueprints. -/
namespace CqlOperations.Simulation.Scene

variable {ρ : Type}

def changeAll (o : Operation String ρ) (changes : List Change) : Operation String ρ :=
  changes.foldl Operation.change o

/-- Makes an operation, and says how many statements a batch has. -/
def build (s : Scene ρ) (b : Blueprint ρ) :
    Scene ρ × Outcome (Except OperationError (Operation String ρ × Option Nat)) :=
  let batch (type : BatchType) (changes : List Change) (creators : List (Creator String)) :=
    changeAll (s.template.batch s.defaults type creators) changes
  match b with
  | .execute creator =>
    (s, match creator.make s.prepare with
      | .returned made =>
        .returned (made.map fun creator => (s.template.execute s.defaults creator, none))
      | .panicked message => .panicked message)
  | .batch type changes creators =>
    (s, match Creator.Recipe.makeAll s.prepare creators with
      | .returned made =>
        .returned (made.map fun creators => (batch type changes creators, some creators.length))
      | .panicked message => .panicked message)
  | .folded type changes creators =>
    match Creator.Recipe.makeAll s.prepare creators with
    | .returned (.ok creators) =>
      let (folded, state) := (batch type changes creators).folded s.state
      ({ s with state }, .returned (folded.map fun operation => (operation, none)))
    | .returned (.error error) => (s, .returned (.error error))
    | .panicked message => (s, .panicked message)
  | .ingest type changes statement rows =>
    (s, match statement.make s.prepare with
      | .returned made =>
        .returned (made.map fun statement =>
          (changeAll (s.template.ingest s.defaults type statement rows) changes, some rows.length))
      | .panicked message => .panicked message)
  | .truncate table => (s, .returned (.ok (s.template.truncate s.defaults table, none)))
  | .known result =>
    let base := Base.known (Statement.ofText "ready") result
    (s, .returned (.ok (s.template.operation s.defaults base, none)))

def modify (o : Operation String ρ) : Modification ρ → Operation String ρ
  | .change change => o.change change
  | .wrap layer => o.wrap layer

def make (s : Scene ρ) (id : String) (b : Blueprint ρ) (modifications : List (Modification ρ)) :
    Scene ρ × Answer ρ :=
  match s.build b with
  | (s, .returned (.ok (operation, size))) =>
    let operation := modifications.foldl modify operation
    let others := s.operations.filter fun (other, _) => other != id
    ({ s with operations := (id, operation) :: others }, .made size operation.options)
  | (s, .returned (.error error)) => (s, .error error)
  | (s, .panicked message) => (s, .panicked message)

end CqlOperations.Simulation.Scene
