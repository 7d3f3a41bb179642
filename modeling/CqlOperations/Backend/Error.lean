import CqlOperations.Consistency
import CqlOperations.Duration

/-! Failures of a request as the backend reports them. -/
namespace CqlOperations.Backend

inductive WriteType where
  | simple
  | batch
  | unloggedBatch
  | counter
  | batchLog
  | cas
  | view
  | cdc
  | other (name : String)
deriving DecidableEq

inductive RequestType where
  | read
  | write
  | other (code : Nat)
deriving DecidableEq

/-- An error that the database answered with. -/
inductive DatabaseError where
  | syntaxError
  | invalid
  | alreadyExists (keyspace table : String)
  | functionFailure (keyspace function : String) (argumentTypes : List String)
  | authenticationError
  | unauthorized
  | configError
  | unavailable (consistency : Consistency) (required alive : Int)
  | overloaded
  | isBootstrapping
  | truncateError
  | readTimeout (consistency : Consistency) (received required : Int) (dataPresent : Bool)
  | writeTimeout (consistency : Consistency) (received required : Int) (type : WriteType)
  | readFailure (consistency : Consistency) (received required failures : Int) (dataPresent : Bool)
  | writeFailure (consistency : Consistency) (received required failures : Int) (type : WriteType)
  | unprepared (id : List UInt8)
  | serverError
  | protocolError
  | rateLimitReached (request : RequestType) (byCoordinator : Bool)
  | other (code : Int)
deriving DecidableEq

/-- An error that nothing here looks into, with its message and its structural text. -/
structure Unlisted where
  message : String
  text : String
deriving DecidableEq

/-- Why an open connection broke. -/
inductive BrokenConnection where
  | keepaliveTimeout (address : String)
  | unexpectedStreamId (id : Int)
  | tooManyOrphanedStreamIds (count : Nat)
  | channelError
  | other (error : Unlisted)
deriving DecidableEq

/-- An error of the operating system. -/
structure SystemError where
  code : Nat
  kind : String
  message : String
deriving DecidableEq

/-- Why a connection could not be opened or kept. -/
inductive ConnectionError where
  | connectTimeout
  | system (error : SystemError)
  | noSourcePortForShard (shard : Nat)
  | broken (reason : BrokenConnection)
  | other (error : Unlisted)
deriving DecidableEq

/-- Why a pool has no connection to offer. -/
inductive PoolError where
  | initializing
  | disabledByHostFilter
  | broken (last : ConnectionError)
deriving DecidableEq

/-- The failure of one attempt to run a request on one connection. -/
inductive AttemptError where
  | database (error : DatabaseError) (message : String)
  | brokenConnection (reason : BrokenConnection)
  | unableToAllocateStreamId
  | repreparedIdMissingInBatch
  | nonfinishedPagingState
  | unexpectedResponse (response : String)
  | repreparedIdChanged (statement : String) (expected reprepared : List UInt8)
  | serialization
  | requestSerialization
  | unreadableResult
  | other (error : Unlisted)
deriving DecidableEq

inductive BadQuery where
  | partitionKeyExtraction
  | valuesTooLongForKey (length limit : Nat)
  | tooManyStatementsInBatch (count : Nat)
  | serialization
deriving DecidableEq

inductive PrepareError where
  | idsMismatch
  | pool (error : PoolError)
  | allAttemptsFailed (first : AttemptError)
deriving DecidableEq

inductive UseKeyspaceError where
  | requestTimeout (limit : Duration)
  | request (error : AttemptError)
  | nameMismatch (expected received : String)
  | other (error : Unlisted)
deriving DecidableEq

/-- Everything that may keep a request from succeeding. -/
inductive Failure where
  | badQuery (error : BadQuery)
  | prepare (error : PrepareError)
  | emptyPlan
  | lastAttempt (error : AttemptError)
  | requestTimeout (limit : Duration)
  | useKeyspace (error : UseKeyspaceError)
  | schemaAgreementTimeout (limit : Duration)
  | schemaAgreement (error : Unlisted)
  | emptyPeers
  | metadata (error : Unlisted)
  | pool (error : PoolError)
deriving DecidableEq

end CqlOperations.Backend
