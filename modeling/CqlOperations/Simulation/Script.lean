import CqlOperations.Statement.Recipe
import CqlOperations.Template

/-! Scripts of simulations: the operations they make, the steps they take and what steps come to. -/
namespace CqlOperations.Simulation

/-- How an operation is written down. Changes of a batch are made before it is folded. -/
inductive Blueprint (ρ : Type) where
  | execute (creator : Creator.Recipe)
  | batch (type : BatchType) (changes : List Change) (creators : List Creator.Recipe)
  | folded (type : BatchType) (changes : List Change) (creators : List Creator.Recipe)
  | ingest (type : BatchType) (changes : List Change) (statement : Statement.Recipe)
      (rows : List (List Value))
  | truncate (table : String)
  | known (result : Result ρ)

/-- A change of an operation after it was created. -/
inductive Modification (ρ : Type) where
  | change (change : Change)
  | wrap (layer : Layer ρ)

inductive Step (ρ : Type) where
  | make (id : String) (blueprint : Blueprint ρ) (modifications : List (Modification ρ))
  | execute (operation : String)
  | executeWithin (operation : String) (limit : Duration)
  | executeText (text : String)
  | toStatement (operation : String)
  | options (operation : String)
  | submit (operation handle : String)
  | start (operation handle : String)
  | callback (operation name : String)
  | isFinished (handle : String)
  | join (handle : String)
  | joinWithin (handle : String) (limit : Duration)
  | onComplete (handle : String) (executor : Executor)
  | block (handle : String)
  | blockWithin (handle : String) (limit : Duration)
  | drop (handle : String)
  | advance (milliseconds : Nat)
  | release (key : String)
  | runKept
  | dropKept
  | setState (text : String)
  | setDefaults (options : List Setting)
  | describeTemplate
  | translate (error : OperationError)
  | shutDown

inductive Answer (ρ : Type) where
  | result (result : Result ρ)
  | statement (statement : Statement)
  | made (size : Option Nat) (options : Options)
  | options (options : Options) (delegate : Option Options)
  | pending (finished : Option Bool) (text : String)
  | started (ended : Bool)
  | held (wasHeld : Bool)
  | tasks (count : Nat)
  | text (text : String)
  | error (error : OperationError)
  | done
  | panicked (message : String)
  | stuck
  | wouldBlock
  | noHandle
  | noOperation

end CqlOperations.Simulation
