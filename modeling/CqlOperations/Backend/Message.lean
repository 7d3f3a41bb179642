import CqlOperations.Backend.Error
import CqlOperations.Text.Structural

/-! Messages of backend failures. -/
namespace CqlOperations.Backend

/-- A type that the protocol does not list is shown by its quoted name. -/
def WriteType.text : WriteType → String
  | simple => "Simple"
  | batch => "Batch"
  | unloggedBatch => "UnloggedBatch"
  | counter => "Counter"
  | batchLog => "BatchLog"
  | cas => "Cas"
  | view => "View"
  | cdc => "Cdc"
  | other name => Text.tuple "Other" [Text.quoted name]

/-- The type of that name on the wire. -/
def WriteType.ofWire : String → WriteType
  | "SIMPLE" => simple
  | "BATCH" => batch
  | "UNLOGGED_BATCH" => unloggedBatch
  | "COUNTER" => counter
  | "BATCH_LOG" => batchLog
  | "CAS" => cas
  | "VIEW" => view
  | "CDC" => cdc
  | name => other name

def RequestType.ofWire : Nat → RequestType
  | 0 => read
  | 1 => write
  | code => other code

/-- A sentence with the values it is about in parentheses. -/
private def withDetails (sentence : String) (details : List (String × String)) : String :=
  sentence ++ " (" ++ ", ".intercalate (details.map fun (name, value) => name ++ ": " ++ value) ++
    ")"

def DatabaseError.message : DatabaseError → String
  | syntaxError => "The submitted query has a syntax error"
  | invalid => "The query is syntactically correct but invalid"
  | alreadyExists keyspace table =>
    withDetails "Attempted to create a keyspace or a table that was already existing"
      [("keyspace", keyspace), ("table", table)]
  | functionFailure keyspace function argumentTypes =>
    withDetails "User defined function failed during execution"
      [("keyspace", keyspace), ("function", function),
        ("arg_types", Text.list (argumentTypes.map Text.quoted))]
  | authenticationError => "Authentication failed - bad credentials"
  | unauthorized => "The logged user doesn't have the right to perform the query"
  | configError => "The query is invalid because of some configuration issue"
  | unavailable consistency required alive =>
    withDetails "Not enough nodes are alive to satisfy required consistency level"
      [("consistency", consistency.name), ("required", toString required),
        ("alive", toString alive)]
  | overloaded => "The request cannot be processed because the coordinator node is overloaded"
  | isBootstrapping => "The coordinator node is still bootstrapping"
  | truncateError => "Error during truncate operation"
  | readTimeout consistency received required dataPresent =>
    withDetails ("Not enough nodes responded to the read request in time to satisfy required " ++
        "consistency level")
      [("consistency", consistency.name), ("received", toString received),
        ("required", toString required), ("data_present", Text.flag dataPresent)]
  | writeTimeout consistency received required type =>
    withDetails ("Not enough nodes responded to the write request in time to satisfy required " ++
        "consistency level")
      [("consistency", consistency.name), ("received", toString received),
        ("required", toString required), ("write_type", type.text)]
  | readFailure consistency received required failures dataPresent =>
    withDetails "A non-timeout error during a read request"
      [("consistency", consistency.name), ("received", toString received),
        ("required", toString required), ("numfailures", toString failures),
        ("data_present", Text.flag dataPresent)]
  | writeFailure consistency received required failures type =>
    -- The list of details is left open here.
    "A non-timeout error during a write request (consistency: " ++ consistency.name ++
      ", received: " ++ toString received ++ ", required: " ++ toString required ++
      ", numfailures: " ++ toString failures ++ ", write_type: " ++ type.text
  | unprepared _ =>
    "Tried to execute a prepared statement that is not prepared. Driver should prepare it again"
  | serverError => "Internal server error. This indicates a server-side bug"
  | protocolError => "Invalid protocol message received from the driver"
  | rateLimitReached .. => "Rate limit was exceeded for a partition affected by the request"
  | other code => "Other error not specified in the specification. Error code: " ++ toString code

def BrokenConnection.message (b : BrokenConnection) : String :=
  "Connection broken, reason: " ++ match b with
  | keepaliveTimeout address =>
    "Timed out while waiting for response to keepalive request on connection to node " ++ address
  | unexpectedStreamId id =>
    "Received a server frame with unexpected stream id: " ++ toString id
  | tooManyOrphanedStreamIds count => "Too many orphaned stream ids: " ++ toString count
  | channelError =>
    "Failed to send/receive data needed to perform a request via tokio channel.\n" ++
      "        It implies that other half of the channel has been dropped.\n" ++
      "        The connection was already broken for some other reason."
  | other error => error.message

def SystemError.text (e : SystemError) : String :=
  e.message ++ " (os error " ++ toString e.code ++ ")"

def ConnectionError.message : ConnectionError → String
  | connectTimeout => "Connect timeout elapsed"
  | system error => error.text
  | noSourcePortForShard shard =>
    "Could not find free source port for shard " ++ toString shard
  | broken reason => reason.message
  | other error => error.message

def PoolError.message : PoolError → String
  | initializing => "Pool is still being initialized"
  | disabledByHostFilter => "The node has been disabled by a host filter"
  | broken last => "The pool is broken; Last connection failed with: " ++ last.message

def AttemptError.message : AttemptError → String
  | database error message =>
    "Database returned an error: " ++ error.message ++ ", Error message: " ++ message
  | brokenConnection reason => reason.message
  | unableToAllocateStreamId => "Unable to allocate stream id"
  | repreparedIdMissingInBatch => "Reprepared statement's id does not exist in the batch."
  | nonfinishedPagingState =>
    "Unpaged query returned a non-empty paging state! This is a driver-side or server-side bug."
  | unexpectedResponse response =>
    "Received unexpected response from the server: " ++ response ++
      ". Expected RESULT or ERROR response."
  | repreparedIdChanged statement expected reprepared =>
    "Prepared statement id changed after repreparation; md5 sum (computed from the query " ++
      "string) should stay the same;Statement: \"" ++ statement ++ "\"; expected id: " ++
      Text.byteList expected ++ "; reprepared id: " ++ Text.byteList reprepared
  | serialization => "Failed to serialize values"
  | requestSerialization => "Failed to serialize the request"
  | unreadableResult => "Failed to read the response"
  | other error => error.message

def BadQuery.message : BadQuery → String
  | partitionKeyExtraction =>
    "Unable extract a partition key based on prepared statement's metadata"
  | valuesTooLongForKey length limit =>
    "Serialized values are too long to compute partition key! Length: " ++ toString length ++
      ", Max allowed length: " ++ toString limit
  | tooManyStatementsInBatch count =>
    "Number of statements in Batch Statement supplied is " ++ toString count ++
      " which has exceeded the max value of 65,535"
  | serialization => "Failed to serialize values"

def PrepareError.message (e : PrepareError) : String :=
  "Failed to prepare the statement: " ++ match e with
  | idsMismatch =>
    "Prepared statement id mismatch between multiple connections - all result ids should be equal."
  | pool error => "Failed to find a node with working connection pool: " ++ error.message
  | allAttemptsFailed first =>
    "Preparation failed on every connection from the selected pool. First attempt error: " ++
      first.message

def requestTimeoutMessage (limit : Duration) : String :=
  "Request execution exceeded a client timeout of " ++ toString limit.milliseconds ++ "ms"

def UseKeyspaceError.message (e : UseKeyspaceError) : String :=
  "'USE KEYSPACE <>' request failed: " ++ match e with
  | requestTimeout limit => requestTimeoutMessage limit
  | request error => error.message
  | nameMismatch expected received =>
    "Keyspace name mismatch; expected: " ++ expected ++ ", received: " ++ received
  | other error => error.message

def Failure.message : Failure → String
  | badQuery error => error.message
  | prepare error => error.message
  | emptyPlan =>
    "Load balancing policy returned an empty plan. If you are using DefaultPolicy, ensure that " ++
      "you have not selected a nonexistent datacenter as preferred. If you are using a custom " ++
      "LBP implementation, ensure that your LBP implementation is correct. If neither of the " ++
      "above suggestions is the cause, then this is most likely a driver bug!"
  | lastAttempt error => error.message
  | requestTimeout limit => requestTimeoutMessage limit
  | useKeyspace error => error.message
  | schemaAgreementTimeout limit =>
    awaitsSchema ("Schema agreement exceeded " ++ toString limit.milliseconds ++ "ms")
  | schemaAgreement error => awaitsSchema error.message
  | emptyPeers => fetchesMetadata "Bad peers metadata: Peers list is empty"
  | metadata error => fetchesMetadata error.message
  | pool error => "No connections in the pool: " ++ error.message
where
  awaitsSchema (reason : String) : String := "Failed to await schema agreement: " ++ reason
  fetchesMetadata (reason : String) : String :=
    "Cluster metadata fetch error occurred during automatic schema agreement: " ++ reason

/-- Failures to turn values into bytes or bytes into a response are known by their kind only. -/
def Failure.isOpaque : Failure → Bool
  | badQuery .serialization => true
  | lastAttempt .serialization => true
  | lastAttempt .requestSerialization => true
  | lastAttempt .unreadableResult => true
  | _ => false

end CqlOperations.Backend
