import CqlOperations.Number.Shortest
import CqlOperations.Text.Structural

/-! Values bound to the markers of a statement. -/
namespace CqlOperations

inductive Value where
  | empty
  | int (n : Int)
  | bigint (n : Int)
  | smallint (n : Int)
  | tinyint (n : Int)
  | counter (n : Int)
  | timestamp (n : Int)
  | date (n : Int)
  | time (n : Int)
  | duration (months days nanoseconds : Int)
  | text (s : String)
  | ascii (s : String)
  | boolean (b : Bool)
  | blob (bytes : List UInt8)
  | double (x : Number.Binary)
  | float (x : Number.Binary)
  | uuid (s : String)
  | inet (s : String)
  | list (items : List Value)
  | set (items : List Value)
  | vector (items : List Value)
  | map (entries : List (Value × Value))
  | tuple (items : List (Option Value))
  | record (keyspace name : String) (fields : List (String × Option Value))

namespace Value

/-- Numbers are written positionally from `10 ^ -4` up to `10 ^ 16`. -/
def layout : Number.Layout :=
  { leastPositional := -4, leastScientific := 16, nan := "NaN", infinity := "inf" }

def doubleText (x : Number.Binary) : String :=
  layout.text .double x

def floatText (x : Number.Binary) : String :=
  layout.text .single x

mutual

/-- The structural text of a value. -/
def describe : Value → String
  | empty => "Empty"
  | int n => Text.tuple "Int" [toString n]
  | bigint n => Text.tuple "BigInt" [toString n]
  | smallint n => Text.tuple "SmallInt" [toString n]
  | tinyint n => Text.tuple "TinyInt" [toString n]
  | counter n => Text.tuple "Counter" [Text.tuple "Counter" [toString n]]
  | timestamp n => Text.tuple "Timestamp" [Text.tuple "CqlTimestamp" [toString n]]
  | date n => Text.tuple "Date" [Text.tuple "CqlDate" [toString n]]
  | time n => Text.tuple "Time" [Text.tuple "CqlTime" [toString n]]
  | duration months days nanoseconds =>
    Text.tuple "Duration" [Text.record "CqlDuration"
      [("months", toString months), ("days", toString days),
        ("nanoseconds", toString nanoseconds)]]
  | text s => Text.tuple "Text" [Text.quoted s]
  | ascii s => Text.tuple "Ascii" [Text.quoted s]
  | boolean b => Text.tuple "Boolean" [Text.flag b]
  | blob bytes => Text.tuple "Blob" [Text.byteList bytes]
  | double x => Text.tuple "Double" [doubleText x]
  | float x => Text.tuple "Float" [floatText x]
  | uuid s => Text.tuple "Uuid" [s]
  | inet s => Text.tuple "Inet" [s]
  | list items => Text.tuple "List" [Text.list (describeAll items)]
  | set items => Text.tuple "Set" [Text.list (describeAll items)]
  | vector items => Text.tuple "Vector" [Text.list (describeAll items)]
  | map entries => Text.tuple "Map" [Text.list (describeEntries entries)]
  | tuple items => Text.tuple "Tuple" [Text.list (describeOptions items)]
  | record keyspace name fields =>
    Text.record "UserDefinedType"
      [("keyspace", Text.quoted keyspace), ("name", Text.quoted name),
        ("fields", Text.list (describeFields fields))]

def describeAll : List Value → List String
  | [] => []
  | v :: rest => v.describe :: describeAll rest

def describeEntries : List (Value × Value) → List String
  | [] => []
  | (k, v) :: rest => Text.tuple "" [k.describe, v.describe] :: describeEntries rest

def describeOption : Option Value → String
  | none => Text.optional none
  | some v => Text.optional (some v.describe)

def describeOptions : List (Option Value) → List String
  | [] => []
  | v :: rest => describeOption v :: describeOptions rest

def describeFields : List (String × Option Value) → List String
  | [] => []
  | (label, v) :: rest =>
    Text.tuple "" [Text.quoted label, describeOption v] :: describeFields rest

end

end Value
end CqlOperations
