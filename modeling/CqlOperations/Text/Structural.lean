import CqlOperations.Text.Quoted

/-! Structural texts: a name, then its parts in parentheses, braces or brackets. -/
namespace CqlOperations.Text

/-- A name with positional parts, as in `Some(1)`. -/
def tuple (name : String) (parts : List String) : String :=
  name ++ "(" ++ ", ".intercalate parts ++ ")"

/-- A name with named parts, as in `Point { x: 1, y: 2 }`. -/
def record (name : String) (fields : List (String × String)) : String :=
  name ++ " \x7b " ++ ", ".intercalate (fields.map fun (label, part) => label ++ ": " ++ part) ++
    " \x7d"

/-- A name with named parts, some of which are not shown. -/
def openRecord (name : String) (fields : List (String × String)) : String :=
  name ++ " \x7b " ++ String.join (fields.map fun (label, part) => label ++ ": " ++ part ++ ", ") ++
    ".. \x7d"

def list (parts : List String) : String :=
  "[" ++ ", ".intercalate parts ++ "]"

def optional : Option String → String
  | none => "None"
  | some part => tuple "Some" [part]

def flag (b : Bool) : String :=
  if b then "true" else "false"

/-- Bytes as a list of decimal numbers. -/
def byteList (bytes : List UInt8) : String :=
  list (bytes.map fun b => toString b.toNat)

end CqlOperations.Text
