import CqlOperations.Datum.Statement
import CqlOperations.Template

/-! Ways to build a template, and what it is like afterwards. -/
namespace CqlOperations.Scenario

/-- Where a template gets its runtime from. -/
inductive RuntimeSource where
  | nowhere
  | context
  | explicit
  | newInContext
  | newOutside

/-- The session may be shared with other users. -/
structure BuildPlan where
  source : RuntimeSource
  shared : Bool := false
  translator : Option Translator := none
  settings : List Setting := []

namespace BuildPlan

/-- The session that is there before the template, and one made for it. -/
def sharedSession : SessionId := ⟨0⟩

def ownSession : SessionId := ⟨1⟩

def context (p : BuildPlan) : Option Runtime :=
  match p.source with
  | .context | .newInContext => some .currentThread
  | _ => none

/-- Templates made without a builder have a session of their own and default settings. -/
def run (p : BuildPlan) : Outcome (Except BuildError (Template × Defaults)) :=
  match p.source with
  | .newInContext | .newOutside =>
    match Template.ofSession ownSession p.context {} with
    | .returned built => .returned (.ok built)
    | .panicked message => .panicked message
  | _ =>
    let builder : Template.Builder :=
      { session := if p.shared then sharedSession else ownSession
        translator := p.translator
        runtime := match p.source with
          | .explicit => some .currentThread
          | _ => none
        options := Options.ofSettings p.settings }
    .returned (builder.build p.context {})

/-- The text of a panic outside of a runtime is not part of the answer. -/
def answer (p : BuildPlan) : Datum :=
  match p.run with
  | .panicked _ => .record [("error", .text "Panic")]
  | .returned (.error error) =>
    .record [("error", .text "NoRuntime"), ("message", .text error.message)]
  | .returned (.ok (template, defaults)) =>
    .record [("ok", .record
      [("debug", .text (template.describe defaults)),
        ("translator", .text template.translator.name),
        ("defaults", (template.defaults defaults).toDatum),
        ("same_session", .flag (template.session = sharedSession)),
        ("runtime", .text template.runtime.name)])]

end BuildPlan

/-- An operation made by a clone before the clone gets other default options. -/
def answerClones (first next : List Setting) : Datum :=
  let (template, defaults) := Template.create BuildPlan.ownSession .standard .currentThread
    (Options.ofSettings first) {}
  let clone := template.clone
  let operation : Operation Unit Unit :=
    clone.execute defaults (.constant (Statement.ofText ""))
  let defaults := clone.setDefaults (Options.ofSettings next) defaults
  .record
    [("first", (template.defaults defaults).toDatum),
      ("clone", (clone.defaults defaults).toDatum),
      ("op", operation.options.toDatum),
      ("context", operation.options.toDatum),
      ("context_runtime", .text operation.runtime.name),
      ("same_session", .flag (clone.session = template.session))]

end CqlOperations.Scenario
