import CqlOperations.Error.Message

/-! Translation of backend failures into data access errors. -/
namespace CqlOperations

/-- A family of backend failures and what they mean; the rest is not recognised. -/
structure Translator where
  name : String
  recognise? : Backend.Failure → Option DataAccessError

/-- What a database error means, with the message that came with it. -/
def Backend.DatabaseError.translate? (error : Backend.DatabaseError) (message : String) :
    Option DataAccessError :=
  match error with
  | .unavailable consistency required alive =>
    some (.insufficientReplicas consistency required alive)
  | .readTimeout consistency received required dataPresent =>
    some (.readTimeout consistency received required dataPresent)
  | .writeTimeout consistency received required type =>
    some (.writeTimeout consistency received required type.text)
  | .readFailure .. | .writeFailure .. | .functionFailure .. =>
    some (.executionFailure (error.message ++ ": " ++ message))
  | .syntaxError => some (.querySyntax message)
  | .invalid => some (.invalidQuery message)
  | .configError => some (.invalidConfiguration message)
  | .alreadyExists keyspace table =>
    if table = "" then some (.keyspaceExists keyspace) else some (.tableExists keyspace table)
  | .unauthorized => some (.unauthorized message)
  | .authenticationError => some (.authentication message)
  | .truncateError => some (.truncate message)
  | .overloaded => some (.overloaded message)
  | .isBootstrapping => some (.bootstrapping message)
  | .serverError | .protocolError => some (.internal (error.message ++ ": " ++ message))
  | .unprepared _ | .rateLimitReached .. | .other _ => none

namespace Translator

/-- Recognises database errors, request timeouts and failures to get a connection. -/
def standard : Translator where
  name := "DefaultExceptionTranslator"
  recognise?
    | .lastAttempt (.database error message) => error.translate? message
    | .lastAttempt (.brokenConnection reason) => some (.connectionFailure reason.message)
    | .requestTimeout limit => some (.requestTimeout limit)
    | failure@.emptyPlan => some (.connectionFailure failure.message)
    | failure@(.pool _) => some (.connectionFailure failure.message)
    | _ => none

/-- Recognises nothing. -/
def nothing : Translator where
  name := "Nothing"
  recognise? _ := none

/-- Recognises an overloaded database and an empty plan only. -/
def picky : Translator where
  name := "Picky"
  recognise?
    | .lastAttempt (.database .overloaded message) => some (.internal ("picky: " ++ message))
    | .emptyPlan => some (.overloaded "picky plan")
    | _ => none

def ofName? : String → Option Translator
  | "default" => some standard
  | "nothing" => some nothing
  | "picky" => some picky
  | _ => none

/-- The error of a request that failed. -/
def translateFailure (t : Translator) (failure : Backend.Failure) : OperationError :=
  match t.recognise? failure with
  | some error => .dataAccess error
  | none => .backend failure

/-- Translates an untranslated backend failure and leaves any other error as it is. -/
def translate (t : Translator) : OperationError → OperationError
  | .backend failure =>
    match t.recognise? failure with
    | some error => .dataAccess error
    | none => .backend failure
  | error => error

end Translator
end CqlOperations
