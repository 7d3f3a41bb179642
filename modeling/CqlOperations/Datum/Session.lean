import CqlOperations.Datum.Output
import CqlOperations.Session.Request
import CqlOperations.Session.Response

/-! Requests and responses as data. -/
namespace CqlOperations

/-- Rows are shown by views only. -/
def Response.toDatum : Response → Datum
  | void => .text "void"
  | rows _ => .text "rows"

namespace RequestedStatement

def kind (s : RequestedStatement) : Datum :=
  .text (if s.prepared then "execute" else "query")

def valuesDatum (s : RequestedStatement) : Datum :=
  .list (s.values.map fun bytes => .text (Text.hexOfBytes bytes))

end RequestedStatement

/-- Values of a single statement are shown if there are any. -/
def RequestBody.toFields : RequestBody → List (String × Datum)
  | single s =>
    [("request", s.kind), ("cql", .text s.text)] ++
      if s.values.isEmpty then [] else [("values", s.valuesDatum)]
  | batch type statements =>
    [("request", .text "batch"), ("type", .text type.name),
      ("statements", .list (statements.map fun s => .list [s.kind, .text s.text, s.valuesDatum]))]

def Request.toDatum (r : Request) : Datum :=
  .record (r.body.toFields ++ [("consistency", .text r.consistency.name)] ++
    (r.serial.toList.map fun level => ("serial", .text level.name)) ++
    (r.timestamp.toList.map fun n => ("timestamp", .number n)) ++
    (if r.tracing then [("tracing", .flag true)] else []))

end CqlOperations
