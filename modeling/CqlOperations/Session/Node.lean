import CqlOperations.Backend.Error
import CqlOperations.Session.Request
import CqlOperations.Session.Response

/-! A session with a single node that answers by a script. -/
namespace CqlOperations

/-- What a node answers to a request. -/
inductive NodeReply where
  | response (response : Response)
  | error (error : Backend.AttemptError)

/-- What a node knows of a statement: the types of its markers, and the error it has for a session
that wants it prepared. -/
structure NodeEntry where
  reply : NodeReply := .response .void
  markers : List ColumnType := []
  refusal : Option Backend.AttemptError := none

/-- Entries by the text of the statement. -/
structure Node where
  entries : List (String × NodeEntry)

namespace Node

open Backend (Failure AttemptError)

def entry (n : Node) (text : String) : NodeEntry :=
  (n.entries.lookup text).getD {}

/-- The name under which the node knows what it answers to a batch. -/
def batchKey : String := "<batch>"

def prepare (n : Node) (text : String) : Except AttemptError (List ColumnType) :=
  match (n.entry text).refusal with
  | some error => .error error
  | none => .ok (n.entry text).markers

/-- The bytes of values that fit the markers one by one. -/
def serialize (markers : List ColumnType) (values : List Value) : Option (List (List UInt8)) := do
  guard (markers.length = values.length)
  (values.zip markers).mapM fun (value, type) => value.bytes? type

/-- Statements without values are sent as they are. All others are prepared on the way, which takes
`mismatch` if the values do not fit. -/
def requested (n : Node) (mismatch : AttemptError) (text : String) (values : List Value) :
    Except AttemptError RequestedStatement := do
  if values.isEmpty then return ⟨false, text, []⟩
  match serialize (← n.prepare text) values with
  | some bytes => return ⟨true, text, bytes⟩
  | none => throw mismatch

/-- The statements of a batch. There has to be a list of values for each of its parts. -/
def requestedAll (n : Node) :
    List Query → List (List Value) → Except AttemptError (List RequestedStatement)
  | [], [] => .ok []
  | query :: parts, row :: rows => do
    let first ← n.requested .requestSerialization query.text row
    let rest ← n.requestedAll parts rows
    return first :: rest
  | _, _ => .error .requestSerialization

/-- How many statements a batch may have. -/
def batchLimit : Nat := 65535

/-- The request that a statement comes to, if it can be sent at all. -/
def request (n : Node) : Statement → Except Failure Request
  | .unprepared query values => do
    let statement ← (n.requested .serialization query.text values).mapError .lastAttempt
    return .ofSettings (.single statement) query.settings
  | .prepared query values =>
    match serialize (n.entry query.text).markers values with
    | some bytes => .ok (.ofSettings (.single ⟨true, query.text, bytes⟩) query.settings)
    | none => .error (.badQuery .serialization)
  | .batch type parts settings values => do
    if batchLimit < parts.length then throw (.badQuery (.tooManyStatementsInBatch parts.length))
    let statements ← (n.requestedAll parts values).mapError .lastAttempt
    return .ofSettings (.batch type statements) settings

/-- What the session gets for a statement. -/
def respond (n : Node) (s : Statement) : Except Failure Response := do
  let _ ← n.request s
  match (n.entry (s.text?.getD batchKey)).reply with
  | .response response => return response
  | .error error => throw (.lastAttempt error)

end Node
end CqlOperations
