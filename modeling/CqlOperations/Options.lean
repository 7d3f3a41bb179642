import CqlOperations.Consistency
import CqlOperations.Executor
import CqlOperations.Retry

/-! Options of an operation: a sparse set of overrides. An option that is not set leaves the
statement as it is, except that tasks run inline without an executor. -/
namespace CqlOperations

/-- Receives failures that are not returned to a caller; known by the name it reports under. -/
structure Handler where
  name : String
deriving DecidableEq

/-- A serial consistency set to `none` clears the one of the statement. -/
structure Options where
  consistency : Option Consistency := none
  serial : Option (Option SerialConsistency) := none
  retry : Option RetryPolicyKind := none
  tracing : Option Bool := none
  idempotent : Option Bool := none
  timestamp : Option Int := none
  executor : Option Executor := none
  handler : Option Handler := none
deriving DecidableEq

/-- One option with its value. -/
inductive Setting where
  | consistency (level : Consistency)
  | serial (level : Option SerialConsistency)
  | retry (kind : RetryPolicyKind)
  | tracing (enabled : Bool)
  | idempotent (enabled : Bool)
  | timestamp (microseconds : Int)
  | executor (executor : Executor)
  | handler (handler : Handler)
deriving DecidableEq

/-- A change of an operation's options. -/
inductive Change where
  | set (setting : Setting)
  | replace (options : Options)
deriving DecidableEq

namespace Options

def set (o : Options) : Setting → Options
  | .consistency level => { o with consistency := some level }
  | .serial level => { o with serial := some level }
  | .retry kind => { o with retry := some kind }
  | .tracing enabled => { o with tracing := some enabled }
  | .idempotent enabled => { o with idempotent := some enabled }
  | .timestamp microseconds => { o with timestamp := some microseconds }
  | .executor executor => { o with executor := some executor }
  | .handler handler => { o with handler := some handler }

def change (o : Options) : Change → Options
  | .set setting => o.set setting
  | .replace options => options

/-- The executor of callbacks and processors, inline unless it is set. -/
def taskExecutor (o : Options) : Executor :=
  o.executor.getD .inline

def text (o : Options) : String :=
  Text.record "StatementOptions"
    [("consistency", Text.optional (o.consistency.map Consistency.name)),
      ("serial_consistency",
        Text.optional (o.serial.map fun level => Text.optional (level.map SerialConsistency.name))),
      ("retry_policy", Text.optional (o.retry.map RetryPolicyKind.text)),
      ("tracing", Text.optional (o.tracing.map Text.flag)),
      ("is_idempotent", Text.optional (o.idempotent.map Text.flag)),
      ("timestamp", Text.optional (o.timestamp.map toString)),
      ("executor", Text.optional (o.executor.map Executor.text)),
      ("failure_handler", Text.optional (o.handler.map fun _ => "FailureHandler"))]

/-- Builds options one setting at a time; of two settings of one option the later counts. -/
structure Builder where
  options : Options := {}
deriving DecidableEq

def builder : Builder := {}

def toBuilder (o : Options) : Builder := ⟨o⟩

def Builder.set (b : Builder) (setting : Setting) : Builder :=
  ⟨b.options.set setting⟩

def Builder.build (b : Builder) : Options := b.options

def Builder.text (b : Builder) : String :=
  Text.record "StatementOptionsBuilder" [("options", b.options.text)]

def ofSettings (settings : List Setting) : Options :=
  (settings.foldl Builder.set builder).build

end Options
end CqlOperations
