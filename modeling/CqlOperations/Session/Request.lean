import CqlOperations.Statement

/-! Requests as nodes see them. -/
namespace CqlOperations

/-- A statement in a request, by its text: to be parsed by the node, or prepared before. -/
structure RequestedStatement where
  prepared : Bool
  text : String
  values : List (List UInt8)
deriving DecidableEq

inductive RequestBody where
  | single (statement : RequestedStatement)
  | batch (type : BatchType) (statements : List RequestedStatement)
deriving DecidableEq

structure Request where
  body : RequestBody
  consistency : Consistency
  serial : Option SerialConsistency
  timestamp : Option Int
  tracing : Bool
deriving DecidableEq

/-- Unless a statement says otherwise, requests are to be consistent within the local datacenter. -/
def Request.ofSettings (body : RequestBody) (s : Settings) : Request where
  body
  consistency := s.consistency.getD .localQuorum
  serial := s.serial.getD (some .localSerial)
  timestamp := s.timestamp
  tracing := s.tracing

end CqlOperations
