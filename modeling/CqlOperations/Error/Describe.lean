import CqlOperations.Backend.Describe
import CqlOperations.Error.Message

/-! Structural texts of the errors of operations. -/
namespace CqlOperations

def DataAccessError.describe : DataAccessError → String
  | insufficientReplicas consistency required alive =>
    Text.record "InsufficientReplicasAvailable"
      [("consistency", consistency.name), ("required", toString required),
        ("alive", toString alive)]
  | readTimeout consistency received required dataPresent =>
    Text.record "ReadTimeout"
      [("consistency", consistency.name), ("received", toString received),
        ("required", toString required), ("data_present", Text.flag dataPresent)]
  | writeTimeout consistency received required type =>
    Text.record "WriteTimeout"
      [("consistency", consistency.name), ("received", toString received),
        ("required", toString required), ("write_type", Text.quoted type)]
  | requestTimeout limit => Text.tuple "RequestTimeout" [limit.text]
  | executionFailure message => Text.tuple "ExecutionFailure" [Text.quoted message]
  | querySyntax message => Text.tuple "QuerySyntax" [Text.quoted message]
  | invalidQuery message => Text.tuple "InvalidQuery" [Text.quoted message]
  | invalidConfiguration message =>
    Text.tuple "InvalidConfigurationInQuery" [Text.quoted message]
  | keyspaceExists keyspace => Text.record "KeyspaceExists" [("keyspace", Text.quoted keyspace)]
  | tableExists keyspace table =>
    Text.record "TableExists" [("keyspace", Text.quoted keyspace), ("table", Text.quoted table)]
  | unauthorized message => Text.tuple "Unauthorized" [Text.quoted message]
  | authentication message => Text.tuple "Authentication" [Text.quoted message]
  | truncate message => Text.tuple "Truncate" [Text.quoted message]
  | overloaded message => Text.tuple "Overloaded" [Text.quoted message]
  | bootstrapping message => Text.tuple "Bootstrapping" [Text.quoted message]
  | connectionFailure message => Text.tuple "ConnectionFailure" [Text.quoted message]
  | internal message => Text.tuple "Internal" [Text.quoted message]

def ProcessingError.describe : ProcessingError → String
  | custom message => Text.tuple "Text" [Text.quoted message]
  | incorrectRowCount expected actual =>
    Text.record "IncorrectRowCount"
      [("expected", toString expected), ("actual", toString actual)]
  | resultNotRows => "ResultNotRows"
  | typeCheckFailed => "TypeCheckFailed"
  | deserializationFailed _ => "DeserializationFailed"
  | firstRowTypeCheckFailed => "TypeCheckFailed"
  | firstRowDeserializationFailed _ => "DeserializationFailed"

namespace OperationError

def describe : OperationError → String
  | statementCreation error =>
    Text.tuple "StatementCreation"
      [Text.tuple "StatementCreationError" [Text.tuple "MessageError" [Text.quoted error.message]]]
  | dataAccess error => Text.tuple "DataAccess" [error.describe]
  | backend failure => Text.tuple "Backend" [failure.describe]
  | waitTimeout limit => Text.tuple "WaitTimeout" [limit.text]
  | usage error => Text.tuple "Usage" [error.describe]
  | interrupted reason => Text.tuple "Interrupted" [Text.quoted reason]
  | processing error => Text.tuple "Processing" [error.describe]

end OperationError
end CqlOperations
