import CqlOperations.Operation

/-! Templates create operations over a session. Clones of a template share its default options. -/
namespace CqlOperations

/-- The session that a template holds, known by a number. -/
structure SessionId where
  number : Nat
deriving DecidableEq

/-- The default options of all templates; each template and its clones share one cell. -/
structure Defaults where
  cells : List Options := []
deriving DecidableEq

structure Template where
  session : SessionId
  translator : Translator
  runtime : Runtime
  cell : Nat

inductive BuildError where
  | noRuntime
deriving DecidableEq

def BuildError.message : BuildError → String
  | noRuntime =>
    "No tokio runtime configured and none available in the current context: " ++ Runtime.missing

namespace Template

/-- A new template with a cell of its own. -/
def create (session : SessionId) (translator : Translator) (runtime : Runtime)
    (options : Options) (d : Defaults) : Template × Defaults :=
  (⟨session, translator, runtime, d.cells.length⟩, ⟨d.cells ++ [options]⟩)

/-- A template with default settings on the runtime of the current context, which has to exist. -/
def ofSession (session : SessionId) (context : Option Runtime) (d : Defaults) :
    Outcome (Template × Defaults) :=
  match context with
  | some runtime => .returned (create session .standard runtime {} d)
  | none => .panicked Runtime.missing

structure Builder where
  session : SessionId
  translator : Option Translator := none
  runtime : Option Runtime := none
  options : Options := {}

/-- A runtime that was set goes before that of the current context. -/
def Builder.build (b : Builder) (context : Option Runtime) (d : Defaults) :
    Except BuildError (Template × Defaults) :=
  match b.runtime.or context with
  | some runtime => .ok (create b.session (b.translator.getD .standard) runtime b.options d)
  | none => .error .noRuntime

/-- A clone shares everything with the template. -/
def clone (t : Template) : Template := t

def defaults (t : Template) (d : Defaults) : Options :=
  d.cells.getD t.cell {}

/-- Replaces the default options of the template and all its clones. -/
def setDefaults (t : Template) (options : Options) (d : Defaults) : Defaults :=
  ⟨d.cells.set t.cell options⟩

def describe (t : Template) (d : Defaults) : String :=
  Text.openRecord "CqlTemplate"
    [("translator", t.translator.name), ("default_options", (t.defaults d).text)]

variable {σ ρ : Type}

/-- An operation starts from the default options of the moment. -/
def operation (t : Template) (d : Defaults) (base : Base σ ρ) : Operation σ ρ :=
  { translator := t.translator, runtime := t.runtime, base, options := t.defaults d }

def execute (t : Template) (d : Defaults) (creator : Creator σ) : Operation σ ρ :=
  t.operation d (.single creator)

/-- Runs statements concurrently. -/
def batch (t : Template) (d : Defaults) (type : BatchType) (creators : List (Creator σ)) :
    Operation σ ρ :=
  t.operation d (.fanOut type creators)

/-- Runs a statement once for each row of values, concurrently. -/
def ingest (t : Template) (d : Defaults) (type : BatchType) (statement : Statement)
    (rows : List (List Value)) : Operation σ ρ :=
  t.batch d type (rows.map (Creator.ofRow statement))

def truncate (t : Template) (d : Defaults) (table : String) : Operation σ ρ :=
  t.execute d (.constant (Statement.ofText ("TRUNCATE " ++ table)))

end Template
end CqlOperations
