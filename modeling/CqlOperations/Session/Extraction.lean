import CqlOperations.Session.Response
import CqlOperations.Template

/-! Operations over a session that go on with the rows of the response. -/
namespace CqlOperations

/-- Goes on with a view of the response. -/
def Processor.ofView {α : Type} (label : String) (view : Response → Except ProcessingError α)
    (toDatum : α → Datum) : Processor Response where
  label
  run
    | .reply response => .returned <|
      match view response with
      | .ok a => .ok (.made (toDatum a))
      | .error error => .error (.processing error)
    | output => .returned (.ok output)

namespace Operation

variable {σ α : Type}

def view (o : Operation σ Response) (f : Response → Except ProcessingError α)
    (toDatum : α → Datum) : Operation σ Response :=
  o.transform (.ofView "" f toDatum)

def mapRows (o : Operation σ Response) (reader : RowReader α) (toDatum : α → Datum) :
    Operation σ Response :=
  o.view (·.mapRows reader) fun rows => .list (rows.map toDatum)

def firstRow (o : Operation σ Response) (reader : RowReader α) (toDatum : α → Datum) :
    Operation σ Response :=
  o.view (·.firstRow reader) fun row => (row.map toDatum).getD .null

def singleRow (o : Operation σ Response) (reader : RowReader α) (toDatum : α → Datum) :
    Operation σ Response :=
  o.view (·.singleRow reader) toDatum

def hasRow (o : Operation σ Response) : Operation σ Response :=
  o.view (fun response => .ok response.hasRow) .flag

def rowCount (o : Operation σ Response) : Operation σ Response :=
  o.view (fun response => .ok response.rowCount) fun n => .number n

end Operation

/-- Counts the rows of a table. -/
def Template.countAll {σ : Type} (t : Template) (d : Defaults) (table : String) :
    Operation σ Response :=
  (t.execute d (.constant (Statement.ofText ("SELECT COUNT(*) FROM " ++ table)))).singleRow
    (.one .bigint) .number

end CqlOperations
