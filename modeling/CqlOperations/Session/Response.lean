import CqlOperations.Error
import CqlOperations.Value.Wire

/-! Responses of a session, and views of the rows in them.

A view that reads rows first checks the types of all columns, whatever the rows are; counting rows
reads none of them. -/
namespace CqlOperations

/-- The bytes of a cell; null has none. -/
abbrev Cell := Option (List UInt8)

structure Rows where
  columns : List Column
  cells : List (List Cell)
deriving DecidableEq

/-- A response with rows, of which there may be none, or one without any such thing. -/
inductive Response where
  | void
  | rows (rows : Rows)
deriving DecidableEq

/-- Reads cells of some types. -/
structure CellReader (α : Type) where
  accepts : ColumnType → Bool
  read : ColumnType → Cell → Except CellFault α

namespace CellReader

/-- Reads any cell. -/
def any : CellReader (Option Value) where
  accepts _ := true
  read
    | _, none => .ok none
    | type, some bytes =>
      match type.value? bytes with
      | some value => .ok (some value)
      | none => .error .malformed

/-- Reads cells of the given types that are not null. -/
def ofTypes {α : Type} (types : List ColumnType) (project : Value → Option α) :
    CellReader α where
  accepts type := type ∈ types
  read type cell := do
    match ← any.read type cell with
    | none => .error .missing
    | some value =>
      match project value with
      | some a => .ok a
      | none => .error .malformed

/-- Reads null as nothing. -/
def optional {α : Type} (c : CellReader α) : CellReader (Option α) where
  accepts := c.accepts
  read
    | _, none => .ok none
    | type, some bytes => (c.read type (some bytes)).map some

def int : CellReader Int :=
  ofTypes [.int] fun
    | .int n => some n
    | _ => none

def bigint : CellReader Int :=
  ofTypes [.bigint] fun
    | .bigint n => some n
    | _ => none

def text : CellReader String :=
  ofTypes [.text, .ascii] fun
    | .text s => some s
    | .ascii s => some s
    | _ => none

def boolean : CellReader Bool :=
  ofTypes [.boolean] fun
    | .boolean b => some b
    | _ => none

/-- Reads the cell of the column at a position. -/
def readAt {α : Type} (c : CellReader α) (column : Nat) (type : ColumnType) (cell : Cell) :
    Except RowError α :=
  (c.read type cell).mapError fun fault => ⟨column, fault⟩

end CellReader

/-- Reads rows whose columns have the right number and types. -/
structure RowReader (α : Type) where
  accepts : List ColumnType → Bool
  read : List (ColumnType × Cell) → Except RowError α

namespace RowReader

variable {α β : Type}

def map (f : α → β) (r : RowReader α) : RowReader β where
  accepts := r.accepts
  read row := (r.read row).map f

/-- A single column. -/
def one (c : CellReader α) : RowReader α where
  accepts
    | [type] => c.accepts type
    | _ => false
  read
    | (type, cell) :: _ => c.readAt 0 type cell
    | [] => .error ⟨0, .missing⟩

/-- Two columns. -/
def two (c : CellReader α) (d : CellReader β) : RowReader (α × β) where
  accepts
    | [first, second] => c.accepts first && d.accepts second
    | _ => false
  read
    | (first, cell) :: (second, other) :: _ => do
      return (← c.readAt 0 first cell, ← d.readAt 1 second other)
    | _ => .error ⟨0, .missing⟩

/-- Reads all cells, the first one being in the column at `column`. -/
def readAll (c : CellReader α) (column : Nat) :
    List (ColumnType × Cell) → Except RowError (List α)
  | [] => .ok []
  | (type, cell) :: rest => do
    let value ← c.readAt column type cell
    let values ← readAll c (column + 1) rest
    return value :: values

/-- Any number of columns. -/
def every (c : CellReader α) : RowReader (List α) where
  accepts types := types.all c.accepts
  read := readAll c 0

end RowReader

namespace Rows

variable {α : Type}

def types (r : Rows) : List ColumnType :=
  r.columns.map Column.type

/-- The rows, each cell with the type of its column. -/
def typed (r : Rows) : List (List (ColumnType × Cell)) :=
  r.cells.map r.types.zip

end Rows

namespace Response

variable {α : Type}

def rows? : Response → Except ProcessingError Rows
  | void => .error .resultNotRows
  | rows r => .ok r

/-- All rows, or the error of the first one that cannot be read. -/
def mapRows (reader : RowReader α) (r : Response) : Except ProcessingError (List α) := do
  let rows ← r.rows?
  if reader.accepts rows.types then (rows.typed.mapM reader.read).mapError .deserializationFailed
  else throw .typeCheckFailed

/-- The first row, if there is one; the others are not read. -/
def firstRow (reader : RowReader α) (r : Response) : Except ProcessingError (Option α) := do
  let rows ← r.rows?
  if reader.accepts rows.types then
    match rows.typed with
    | [] => return none
    | first :: _ => ((reader.read first).map some).mapError .firstRowDeserializationFailed
  else throw .firstRowTypeCheckFailed

/-- The only row. All rows are read before they are counted. -/
def singleRow (reader : RowReader α) (r : Response) : Except ProcessingError α := do
  match ← r.mapRows reader with
  | [row] => return row
  | read => throw (.incorrectRowCount 1 read.length)

/-- How many rows there are, none in a response without rows. -/
def rowCount : Response → Nat
  | void => 0
  | rows r => r.cells.length

def hasRow (r : Response) : Bool :=
  0 < r.rowCount

end Response
end CqlOperations
