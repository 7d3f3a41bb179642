/-! Plain data: what processors make of results, and how answers are reported. -/
namespace CqlOperations

inductive Datum where
  | null
  | flag (b : Bool)
  | number (n : Int)
  | text (s : String)
  | list (items : List Datum)
  | record (fields : List (String × Datum))

end CqlOperations
