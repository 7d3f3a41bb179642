import CqlOperations.Datum
import CqlOperations.Duration
import CqlOperations.Statement
import CqlOperations.Text.Hex

/-! Options, values and statements as data. -/
namespace CqlOperations

namespace Datum

def ofOption (d : Option Datum) : Datum :=
  d.getD .null

def ofNat (n : Nat) : Datum :=
  .number n

def ofDuration (d : Duration) : Datum :=
  .list [ofNat d.seconds, ofNat d.subsecond]

end Datum

/-- A serial consistency that is not set is told apart from one that is cleared. -/
def Options.toDatum (o : Options) : Datum :=
  .record
    [("consistency", .ofOption (o.consistency.map fun level => .text level.name)),
      ("serial", match o.serial with
        | none => .text "unset"
        | some level => .ofOption (level.map fun level => .text level.name)),
      ("retry", .ofOption (o.retry.map fun kind => .text kind.text)),
      ("tracing", .ofOption (o.tracing.map .flag)),
      ("idempotent", .ofOption (o.idempotent.map .flag)),
      ("timestamp", .ofOption (o.timestamp.map .number)),
      ("executor", .text o.taskExecutor.text),
      ("handler", .flag o.handler.isSome)]

namespace Value

private def one (label : String) (d : Datum) : Datum :=
  .record [(label, d)]

mutual

def toDatum : Value → Datum
  | empty => .text "empty"
  | int n => one "int" (.number n)
  | bigint n => one "bigint" (.number n)
  | smallint n => one "smallint" (.number n)
  | tinyint n => one "tinyint" (.number n)
  | counter n => one "counter" (.number n)
  | timestamp n => one "timestamp" (.number n)
  | date n => one "date" (.number n)
  | time n => one "time" (.number n)
  | duration months days nanoseconds =>
    one "duration" (.list [.number months, .number days, .number nanoseconds])
  | text s => one "text" (.text s)
  | ascii s => one "ascii" (.text s)
  | boolean b => one "boolean" (.flag b)
  | blob bytes => one "blob" (.text (Text.hexOfBytes bytes))
  | double x => one "double" (.text (doubleText x))
  | float x => one "float" (.text (floatText x))
  | uuid s => one "uuid" (.text s)
  | inet s => one "inet" (.text s)
  | list items => one "list" (.list (allToData items))
  | set items => one "set" (.list (allToData items))
  | vector items => one "vector" (.list (allToData items))
  | map entries => one "map" (.list (entriesToData entries))
  | tuple items => one "tuple" (.list (optionsToData items))
  | record keyspace name fields =>
    one "udt" (.record
      [("keyspace", .text keyspace), ("name", .text name), ("fields", .list (fieldsToData fields))])

def allToData : List Value → List Datum
  | [] => []
  | v :: rest => v.toDatum :: allToData rest

def entriesToData : List (Value × Value) → List Datum
  | [] => []
  | (k, v) :: rest => .list [k.toDatum, v.toDatum] :: entriesToData rest

def optionToDatum : Option Value → Datum
  | none => .null
  | some v => v.toDatum

def optionsToData : List (Option Value) → List Datum
  | [] => []
  | v :: rest => optionToDatum v :: optionsToData rest

def fieldsToData : List (String × Option Value) → List Datum
  | [] => []
  | (label, v) :: rest => .list [.text label, optionToDatum v] :: fieldsToData rest

end

end Value

/-- The settings that say something; a cleared serial consistency and `false` do not. -/
def Settings.toFields (s : Settings) : List (String × Datum) :=
  let field (label : String) (d : Option Datum) := d.toList.map fun d => (label, d)
  field "consistency" (s.consistency.map fun level => .text level.name) ++
    field "serial" (s.serial.join.map fun level => .text level.name) ++
    field "retry" (s.retry.map fun policy => .text policy.text) ++
    field "tracing" (if s.tracing then some (.flag true) else none) ++
    field "idempotent" (if s.idempotent then some (.flag true) else none) ++
    field "timestamp" (s.timestamp.map .number)

def Query.toFields (q : Query) : List (String × Datum) :=
  ("cql", .text q.text) :: q.settings.toFields

def Statement.toDatum (s : Statement) : Datum :=
  let kind := ("kind", Datum.text s.kind.name)
  let row (values : List Value) := Datum.list (Value.allToData values)
  .record (kind :: match s with
    | unprepared query values => ("values", row values) :: query.toFields
    | prepared query values => ("values", row values) :: query.toFields
    | batch type parts settings values =>
      [("type", .text type.name), ("statements", .list (parts.map fun q => .record q.toFields)),
        ("values", .list (values.map row))] ++ settings.toFields)

end CqlOperations
