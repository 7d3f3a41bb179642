/-! Columns of a table and their types. -/
namespace CqlOperations

inductive ColumnType where
  | ascii
  | bigint
  | blob
  | boolean
  | counter
  | date
  | double
  | float
  | inet
  | int
  | smallint
  | text
  | time
  | timestamp
  | tinyint
  | uuid
  | list (item : ColumnType)
  | set (item : ColumnType)
deriving DecidableEq

namespace ColumnType

def name : ColumnType → String
  | ascii => "ascii"
  | bigint => "bigint"
  | blob => "blob"
  | boolean => "boolean"
  | counter => "counter"
  | date => "date"
  | double => "double"
  | float => "float"
  | inet => "inet"
  | int => "int"
  | smallint => "smallint"
  | text => "text"
  | time => "time"
  | timestamp => "timestamp"
  | tinyint => "tinyint"
  | uuid => "uuid"
  | list item => "list<" ++ item.name ++ ">"
  | set item => "set<" ++ item.name ++ ">"

def simple : List ColumnType :=
  [ascii, bigint, blob, boolean, counter, date, double, float, inet, int, smallint, text, time,
    timestamp, tinyint, uuid]

/-- A simple type, or a collection of one. -/
def ofName? (s : String) : Option ColumnType :=
  (simple ++ simple.map list ++ simple.map set).find? (·.name == s)

end ColumnType

structure Column where
  name : String
  type : ColumnType
deriving DecidableEq

end CqlOperations
