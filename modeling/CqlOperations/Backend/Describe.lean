import CqlOperations.Backend.Message
import CqlOperations.Text.Hex

/-! Structural texts of backend failures. -/
namespace CqlOperations.Backend

/-- A byte inside quotes: visible ASCII as it is, anything else escaped. -/
private def byteText (b : UInt8) : String :=
  match b.toNat with
  | 0 => "\\0"
  | 9 => "\\t"
  | 10 => "\\n"
  | 13 => "\\r"
  | 34 => "\\\""
  | 92 => "\\\\"
  | n => if 32 ≤ n ∧ n < 127 then (Char.ofNat n).toString else "\\x" ++ Text.hexOfBytes [b]

def byteString (bytes : List UInt8) : String :=
  "b\"" ++ String.join (bytes.map byteText) ++ "\""

def RequestType.text : RequestType → String
  | read => "Read"
  | write => "Write"
  | other code => Text.tuple "Other" [toString code]

def DatabaseError.describe : DatabaseError → String
  | syntaxError => "SyntaxError"
  | invalid => "Invalid"
  | alreadyExists keyspace table =>
    Text.record "AlreadyExists" [("keyspace", Text.quoted keyspace), ("table", Text.quoted table)]
  | functionFailure keyspace function argumentTypes =>
    Text.record "FunctionFailure"
      [("keyspace", Text.quoted keyspace), ("function", Text.quoted function),
        ("arg_types", Text.list (argumentTypes.map Text.quoted))]
  | authenticationError => "AuthenticationError"
  | unauthorized => "Unauthorized"
  | configError => "ConfigError"
  | unavailable consistency required alive =>
    Text.record "Unavailable"
      [("consistency", consistency.name), ("required", toString required),
        ("alive", toString alive)]
  | overloaded => "Overloaded"
  | isBootstrapping => "IsBootstrapping"
  | truncateError => "TruncateError"
  | readTimeout consistency received required dataPresent =>
    Text.record "ReadTimeout"
      [("consistency", consistency.name), ("received", toString received),
        ("required", toString required), ("data_present", Text.flag dataPresent)]
  | writeTimeout consistency received required type =>
    Text.record "WriteTimeout"
      [("consistency", consistency.name), ("received", toString received),
        ("required", toString required), ("write_type", type.text)]
  | readFailure consistency received required failures dataPresent =>
    Text.record "ReadFailure"
      [("consistency", consistency.name), ("received", toString received),
        ("required", toString required), ("numfailures", toString failures),
        ("data_present", Text.flag dataPresent)]
  | writeFailure consistency received required failures type =>
    Text.record "WriteFailure"
      [("consistency", consistency.name), ("received", toString received),
        ("required", toString required), ("numfailures", toString failures),
        ("write_type", type.text)]
  | unprepared id => Text.record "Unprepared" [("statement_id", byteString id)]
  | serverError => "ServerError"
  | protocolError => "ProtocolError"
  | rateLimitReached request byCoordinator =>
    Text.record "RateLimitReached"
      [("op_type", request.text), ("rejected_by_coordinator", Text.flag byCoordinator)]
  | other code => Text.tuple "Other" [toString code]

def BrokenConnection.describe (b : BrokenConnection) : String :=
  Text.tuple "BrokenConnectionError" [match b with
    | keepaliveTimeout address => Text.tuple "KeepaliveTimeout" [address]
    | unexpectedStreamId id => Text.tuple "UnexpectedStreamId" [toString id]
    | tooManyOrphanedStreamIds count => Text.tuple "TooManyOrphanedStreamIds" [toString count]
    | channelError => "ChannelError"
    | other error => error.text]

def SystemError.describe (e : SystemError) : String :=
  Text.record "Os"
    [("code", toString e.code), ("kind", e.kind), ("message", Text.quoted e.message)]

def ConnectionError.describe : ConnectionError → String
  | connectTimeout => "ConnectTimeout"
  | system error => Text.tuple "IoError" [error.describe]
  | noSourcePortForShard shard => Text.tuple "NoSourcePortForShard" [toString shard]
  | broken reason => Text.tuple "BrokenConnection" [reason.describe]
  | other error => error.text

def PoolError.describe : PoolError → String
  | initializing => "Initializing"
  | disabledByHostFilter => "NodeDisabledByHostFilter"
  | broken last => Text.record "Broken" [("last_connection_error", last.describe)]

/-- The name of a kind of response, as in `AuthSuccess` for `AUTH_SUCCESS`. -/
def responseName (kind : String) : String :=
  String.join ((kind.splitOn "_").map fun word => word.toLower.capitalize)

def AttemptError.describe : AttemptError → String
  | database error message =>
    Text.tuple "DbError" [error.describe, Text.quoted message]
  | brokenConnection reason => Text.tuple "BrokenConnectionError" [reason.describe]
  | unableToAllocateStreamId => "UnableToAllocStreamId"
  | repreparedIdMissingInBatch => "RepreparedIdMissingInBatch"
  | nonfinishedPagingState => "NonfinishedPagingState"
  | unexpectedResponse response => Text.tuple "UnexpectedResponse" [responseName response]
  | repreparedIdChanged statement expected reprepared =>
    Text.record "RepreparedIdChanged"
      [("statement", Text.quoted statement), ("expected_id", Text.byteList expected),
        ("reprepared_id", Text.byteList reprepared)]
  | serialization => "SerializationError"
  | requestSerialization => "CqlRequestSerialization"
  | unreadableResult => "CqlResultParseError"
  | other error => error.text

def BadQuery.describe : BadQuery → String
  | partitionKeyExtraction => "PartitionKeyExtraction"
  | valuesTooLongForKey length limit =>
    Text.tuple "ValuesTooLongForKey" [toString length, toString limit]
  | tooManyStatementsInBatch count =>
    Text.tuple "TooManyQueriesInBatchStatement" [toString count]
  | serialization => "SerializationError"

def PrepareError.describe : PrepareError → String
  | idsMismatch => "PreparedStatementIdsMismatch"
  | pool error => Text.tuple "ConnectionPoolError" [error.describe]
  | allAttemptsFailed first =>
    Text.record "AllAttemptsFailed" [("first_attempt", first.describe)]

def UseKeyspaceError.describe : UseKeyspaceError → String
  | requestTimeout limit => Text.tuple "RequestTimeout" [limit.text]
  | request error => Text.tuple "RequestError" [error.describe]
  | nameMismatch expected received =>
    Text.record "KeyspaceNameMismatch"
      [("expected_keyspace_name_lowercase", Text.quoted expected),
        ("result_keyspace_name_lowercase", Text.quoted received)]
  | other error => error.text

def Failure.describe : Failure → String
  | badQuery error => Text.tuple "BadQuery" [error.describe]
  | prepare error => Text.tuple "PrepareError" [error.describe]
  | emptyPlan => "EmptyPlan"
  | lastAttempt error => Text.tuple "LastAttemptError" [error.describe]
  | requestTimeout limit => Text.tuple "RequestTimeout" [limit.text]
  | useKeyspace error => Text.tuple "UseKeyspaceError" [error.describe]
  | schemaAgreementTimeout limit =>
    Text.tuple "SchemaAgreementError" [Text.tuple "Timeout" [limit.text]]
  | schemaAgreement error => Text.tuple "SchemaAgreementError" [error.text]
  | emptyPeers => Text.tuple "MetadataError" [Text.tuple "Peers" ["EmptyPeers"]]
  | metadata error => Text.tuple "MetadataError" [error.text]
  | pool error => Text.tuple "ConnectionPoolError" [error.describe]

end CqlOperations.Backend
