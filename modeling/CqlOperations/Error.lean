import CqlOperations.Backend.Error
import CqlOperations.Error.Usage

/-! Errors that an operation may end in. -/
namespace CqlOperations

/-- A backend failure in terms of data access. -/
inductive DataAccessError where
  | insufficientReplicas (consistency : Consistency) (required alive : Int)
  | readTimeout (consistency : Consistency) (received required : Int) (dataPresent : Bool)
  | writeTimeout (consistency : Consistency) (received required : Int) (type : String)
  | requestTimeout (limit : Duration)
  | executionFailure (message : String)
  | querySyntax (message : String)
  | invalidQuery (message : String)
  | invalidConfiguration (message : String)
  | keyspaceExists (keyspace : String)
  | tableExists (keyspace table : String)
  | unauthorized (message : String)
  | authentication (message : String)
  | truncate (message : String)
  | overloaded (message : String)
  | bootstrapping (message : String)
  | connectionFailure (message : String)
  | internal (message : String)
deriving DecidableEq

/-- Whether the failure may go away when the request is tried again later. -/
def DataAccessError.isTransient : DataAccessError → Bool
  | insufficientReplicas .. => true
  | readTimeout .. => true
  | writeTimeout .. => true
  | requestTimeout _ => true
  | overloaded _ => true
  | bootstrapping _ => true
  | connectionFailure _ => true
  | _ => false

/-- The failure of a statement's creator. -/
structure CreationError where
  message : String
deriving DecidableEq

/-- What is wrong with a cell that cannot be read. -/
inductive CellFault where
  | missing
  | malformed
deriving DecidableEq

/-- The first cell of a row that cannot be read, by the position of its column. -/
structure RowError where
  column : Nat
  fault : CellFault
deriving DecidableEq

/-- Why a successful result could not be processed. -/
inductive ProcessingError where
  | custom (message : String)
  | incorrectRowCount (expected actual : Nat)
  | resultNotRows
  | typeCheckFailed
  | deserializationFailed (error : RowError)
  | firstRowTypeCheckFailed
  | firstRowDeserializationFailed (error : RowError)
deriving DecidableEq

inductive OperationError where
  | statementCreation (error : CreationError)
  | dataAccess (error : DataAccessError)
  | backend (failure : Backend.Failure)
  | waitTimeout (limit : Duration)
  | usage (error : UsageError)
  | interrupted (reason : String)
  | processing (error : ProcessingError)
deriving DecidableEq

namespace OperationError

/-- The untranslated backend failure, if the error is one. -/
def backend? : OperationError → Option Backend.Failure
  | backend failure => some failure
  | _ => none

def isWaitTimeout : OperationError → Bool
  | waitTimeout _ => true
  | _ => false

end OperationError
end CqlOperations
