import CqlOperations.Backend.Message
import CqlOperations.Error

/-! Messages of the errors of operations, and the reasons of interruptions. -/
namespace CqlOperations

def DataAccessError.message : DataAccessError → String
  | insufficientReplicas consistency required alive =>
    "Not enough replicas available for query at consistency " ++ consistency.name ++ " (" ++
      toString alive ++ " alive, " ++ toString required ++ " required)"
  | readTimeout consistency received required dataPresent =>
    "Read timed out at consistency " ++ consistency.name ++ " (" ++ toString received ++ " of " ++
      toString required ++ " responses, data present: " ++ Text.flag dataPresent ++ ")"
  | writeTimeout consistency received required type =>
    "Write of type " ++ type ++ " timed out at consistency " ++ consistency.name ++ " (" ++
      toString received ++ " of " ++ toString required ++ " acknowledgements)"
  | requestTimeout limit => "Request timed out on the client side after " ++ limit.text
  | executionFailure message => "Execution failed on the replicas: " ++ message
  | querySyntax message => "Query syntax error: " ++ message
  | invalidQuery message => "Invalid query: " ++ message
  | invalidConfiguration message => "Invalid configuration in query: " ++ message
  | keyspaceExists keyspace => "Keyspace " ++ keyspace ++ " already exists"
  | tableExists keyspace table => "Table " ++ keyspace ++ "." ++ table ++ " already exists"
  | unauthorized message => "Unauthorized: " ++ message
  | authentication message => "Authentication failed: " ++ message
  | truncate message => "Truncate failed: " ++ message
  | overloaded message => "Coordinator overloaded: " ++ message
  | bootstrapping message => "Coordinator is bootstrapping: " ++ message
  | connectionFailure message => "Connection failure: " ++ message
  | internal message => "Internal error: " ++ message

/-- Failures to read rows are known by their kind only and have no message. -/
def ProcessingError.message? : ProcessingError → Option String
  | custom message => some message
  | incorrectRowCount expected actual =>
    some ("Expected " ++ toString expected ++ " row(s), got " ++ toString actual)
  | resultNotRows => some "Result is not of Rows kind"
  | typeCheckFailed => none
  | deserializationFailed _ => none
  | firstRowTypeCheckFailed => none
  | firstRowDeserializationFailed _ => none

namespace OperationError

def message? : OperationError → Option String
  | statementCreation error => some ("Failed to create statement: " ++ error.message)
  | dataAccess error => some error.message
  | backend failure =>
    if failure.isOpaque then none else some ("Execution failed: " ++ failure.message)
  | waitTimeout limit =>
    some ("Gave up waiting for the result after " ++ limit.text ++
      ", the request may still complete")
  | usage error => some error.message
  | interrupted reason => some ("Waiting for the result was interrupted: " ++ reason)
  | processing error => error.message?.map ("Failed to process the result: " ++ ·)

/-- The task that was to produce the result was cancelled. -/
def cancelled : OperationError :=
  interrupted "the task was cancelled"

/-- The task that was to produce the result panicked. -/
def panicked (message : String) : OperationError :=
  interrupted ("the task panicked: task N panicked with message " ++ Text.quoted message)

/-- An executor dropped a processor's task. -/
def taskDropped : OperationError :=
  interrupted "executor dropped the task before running it"

/-- A statement of a batch came to nothing. -/
def noResult (position : Nat) : OperationError :=
  interrupted ("statement at position " ++ toString position ++ " produced no result")

end OperationError
end CqlOperations
