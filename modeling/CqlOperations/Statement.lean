import CqlOperations.Options
import CqlOperations.Value

/-! Statements with the values bound to them, and the settings they carry. -/
namespace CqlOperations

/-- What a statement itself says about how it is to be run. A serial consistency of `some none` was
cleared on purpose; `none` leaves the choice to the backend. -/
structure Settings where
  consistency : Option Consistency := none
  serial : Option (Option SerialConsistency) := none
  retry : Option RetryPolicy := none
  tracing : Bool := false
  idempotent : Bool := false
  timestamp : Option Int := none
deriving DecidableEq

/-- Settings that the options set replace those of the statement. -/
def Settings.overlay (s : Settings) (o : Options) : Settings where
  consistency := o.consistency.or s.consistency
  serial := o.serial.or s.serial
  retry := (o.retry.map RetryPolicyKind.resolve).or s.retry
  tracing := o.tracing.getD s.tracing
  idempotent := o.idempotent.getD s.idempotent
  timestamp := o.timestamp.or s.timestamp

inductive BatchType where
  | logged
  | unlogged
  | counter
deriving DecidableEq

def BatchType.name : BatchType → String
  | logged => "Logged"
  | unlogged => "Unlogged"
  | counter => "Counter"

def BatchType.ofName? (s : String) : Option BatchType :=
  [logged, unlogged, counter].find? (·.name == s)

/-- The text of a statement with its own settings. -/
structure Query where
  text : String
  settings : Settings := {}
deriving DecidableEq

def Query.apply (q : Query) (o : Options) : Query :=
  { q with settings := q.settings.overlay o }

/-- A batch holds one list of values for each of its parts, in order. -/
inductive Statement where
  | unprepared (query : Query) (values : List Value)
  | prepared (query : Query) (values : List Value)
  | batch (type : BatchType) (parts : List Query) (settings : Settings)
      (values : List (List Value))

namespace Statement

inductive Kind where
  | unprepared
  | prepared
  | batch
deriving DecidableEq

def Kind.name : Kind → String
  | unprepared => "unprepared"
  | prepared => "prepared"
  | batch => "batch"

def Kind.ofName? (s : String) : Option Kind :=
  [unprepared, prepared, batch].find? (·.name == s)

def ofText (text : String) : Statement :=
  unprepared ⟨text, {}⟩ []

def kind : Statement → Kind
  | unprepared .. => .unprepared
  | prepared .. => .prepared
  | batch .. => .batch

/-- Regular statements can be parts of a batch. -/
def isRegular (s : Statement) : Bool :=
  s.kind = .unprepared

def settings : Statement → Settings
  | unprepared query _ => query.settings
  | prepared query _ => query.settings
  | batch _ _ settings _ => settings

/-- The text of a statement; a batch has none. -/
def text? : Statement → Option String
  | unprepared query _ => some query.text
  | prepared query _ => some query.text
  | batch .. => none

/-- The name under which a statement is recognised: its text, or the size of the batch. -/
def key : Statement → String
  | unprepared query _ => query.text
  | prepared query _ => query.text
  | batch _ parts _ _ => "<batch of " ++ toString parts.length ++ ">"

/-- Options act on the statement as a whole: the parts of a batch keep their own settings. -/
def apply (o : Options) : Statement → Statement
  | unprepared query values => unprepared (query.apply o) values
  | prepared query values => prepared (query.apply o) values
  | batch type parts settings values => batch type parts (settings.overlay o) values

/-- The same statement with other values; those of a batch are bound to its parts. -/
def rebind? (values : List Value) : Statement → Option Statement
  | unprepared query _ => some (unprepared query values)
  | prepared query _ => some (prepared query values)
  | batch .. => none

/-- The structural text of a statement. -/
def describe (s : Statement) : String :=
  let valueText (values : List Value) := Text.list (Value.describeAll values)
  let simple (text : String) (values : List Value) :=
    [("contents", Text.quoted text), ("values", valueText values)]
  let fields := match s with
    | unprepared query values => simple query.text values
    | prepared query values => simple query.text values
    | batch _ parts _ values =>
      [("statements", toString parts.length), ("values", Text.list (values.map valueText))]
  Text.record "CqlStatement" (("kind", Text.quoted s.kind.name) :: fields)

end Statement
end CqlOperations
