import CqlOperations.Datum.Statement
import CqlOperations.Output
import CqlOperations.Text.TaskNumber

/-! Errors and outputs as data. -/
namespace CqlOperations

def Backend.Failure.name : Backend.Failure → String
  | badQuery .serialization => "BadQuery.Serialization"
  | badQuery _ => "BadQuery"
  | prepare _ => "Prepare"
  | emptyPlan => "EmptyPlan"
  | lastAttempt (.database ..) => "Db"
  | lastAttempt (.brokenConnection _) => "BrokenConnection"
  | lastAttempt .unableToAllocateStreamId => "UnableToAllocStreamId"
  | lastAttempt .repreparedIdMissingInBatch => "RepreparedIdMissingInBatch"
  | lastAttempt .nonfinishedPagingState => "NonfinishedPagingState"
  | lastAttempt (.unexpectedResponse _) => "UnexpectedResponse"
  | lastAttempt (.repreparedIdChanged ..) => "RepreparedIdChanged"
  | lastAttempt .serialization => "Serialization"
  | lastAttempt .requestSerialization => "RequestSerialization"
  | lastAttempt .unreadableResult => "CqlResultParse"
  | lastAttempt (.other _) => "Other"
  | requestTimeout _ => "RequestTimeout"
  | useKeyspace _ => "UseKeyspace"
  | schemaAgreementTimeout _ | schemaAgreement _ => "SchemaAgreement"
  | emptyPeers | metadata _ => "Metadata"
  | pool _ => "Pool"

def DataAccessError.name : DataAccessError → String
  | insufficientReplicas .. => "InsufficientReplicasAvailable"
  | readTimeout .. => "ReadTimeout"
  | writeTimeout .. => "WriteTimeout"
  | requestTimeout _ => "RequestTimeout"
  | executionFailure _ => "ExecutionFailure"
  | querySyntax _ => "QuerySyntax"
  | invalidQuery _ => "InvalidQuery"
  | invalidConfiguration _ => "InvalidConfigurationInQuery"
  | keyspaceExists _ => "KeyspaceExists"
  | tableExists .. => "TableExists"
  | unauthorized _ => "Unauthorized"
  | authentication _ => "Authentication"
  | truncate _ => "Truncate"
  | overloaded _ => "Overloaded"
  | bootstrapping _ => "Bootstrapping"
  | connectionFailure _ => "ConnectionFailure"
  | internal _ => "Internal"

/-- The fields of an error; one that is all text has a single field for it. -/
def DataAccessError.detail : DataAccessError → List (String × Datum)
  | insufficientReplicas consistency required alive =>
    [("consistency", .text consistency.name), ("required", .number required),
      ("alive", .number alive)]
  | readTimeout consistency received required dataPresent =>
    [("consistency", .text consistency.name), ("received", .number received),
      ("required", .number required), ("data_present", .flag dataPresent)]
  | writeTimeout consistency received required type =>
    [("consistency", .text consistency.name), ("received", .number received),
      ("required", .number required), ("write_type", .text type)]
  | requestTimeout limit => [("d", .ofDuration limit)]
  | keyspaceExists keyspace => [("keyspace", .text keyspace)]
  | tableExists keyspace table => [("keyspace", .text keyspace), ("table", .text table)]
  | executionFailure message | querySyntax message | invalidQuery message
  | invalidConfiguration message | unauthorized message | authentication message
  | truncate message | overloaded message | bootstrapping message | connectionFailure message
  | internal message => [("msg", .text message)]

def ProcessingError.name : ProcessingError → String
  | custom _ => "Custom"
  | incorrectRowCount .. => "IncorrectRowCount"
  | resultNotRows => "ResultNotRows"
  | typeCheckFailed => "TypeCheckFailed"
  | deserializationFailed _ => "DeserializationFailed"
  | firstRowTypeCheckFailed => "FirstRowTypeCheckFailed"
  | firstRowDeserializationFailed _ => "FirstRowDeserializationFailed"

namespace OperationError

def name : OperationError → String
  | statementCreation _ => "StatementCreation"
  | dataAccess error => "DataAccess." ++ error.name
  | backend failure => "Backend." ++ failure.name
  | waitTimeout _ => "WaitTimeout"
  | usage (.notFoldable ..) => "Usage.NotFoldable"
  | usage .emptyBatch => "Usage.EmptyBatch"
  | usage .resultAlreadyTaken => "Usage.ResultAlreadyTaken"
  | interrupted _ => "Interrupted"
  | processing error => "Processing." ++ error.name

def detail : OperationError → List (String × Datum)
  | dataAccess error => error.detail
  | waitTimeout limit => [("d", .ofDuration limit)]
  | usage (.notFoldable position kind) =>
    [("position", .ofNat position), ("kind", .text kind.name)]
  | processing (.incorrectRowCount expected actual) =>
    [("expected", .ofNat expected), ("actual", .ofNat actual)]
  | _ => []

/-- The message as it is shown. A failure to access data speaks of no task. -/
def shownMessage? : OperationError → Option String
  | dataAccess error => some error.message
  | e => e.message?.map Text.maskTaskNumbers

def toDatum (e : OperationError) : Datum :=
  let message := e.shownMessage?.toList.map fun m => ("message", Datum.text m)
  let detail := if e.detail.isEmpty then [] else [("detail", Datum.record e.detail)]
  let transient := match e with
    | dataAccess error => [("transient", Datum.flag error.isTransient)]
    | _ => []
  .record (("error", .text e.name) :: message ++ detail ++ transient)

end OperationError

variable {ρ : Type}

def Slot.toDatum (reply : ρ → Datum) : Slot ρ → Datum
  | .ok value => .record [("ok", reply value)]
  | .failed error => error.toDatum
  | .absent => .text "absent"

def BatchResult.toDatum (reply : ρ → Datum) (b : BatchResult ρ) : Datum :=
  .record
    [("len", .ofNat b.size),
      ("empty", .flag b.isEmpty),
      ("all_ok", .flag b.isAllOk),
      ("failed", .list (b.failedPositions.map .ofNat)),
      ("failures", .list (b.failures.map fun (position, error) =>
        .list [.ofNat position, error.toDatum])),
      ("first_failure", .ofOption (b.firstFailure?.map OperationError.toDatum)),
      ("slots", .list (b.slots.map (Slot.toDatum reply)))]

def Output.toDatum (reply : ρ → Datum) : Output ρ → Datum
  | .reply value => reply value
  | .batch result => result.toDatum reply
  | .made datum => datum

def Result.toDatum (reply : ρ → Datum) : Result ρ → Datum
  | .ok output => .record [("ok", output.toDatum reply)]
  | .error error => error.toDatum

end CqlOperations
