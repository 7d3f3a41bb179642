import CqlOperations.Proofs.Bare
import CqlOperations.Proofs.Changes
import CqlOperations.Proofs.Overlay
import CqlOperations.Proofs.Preview
import CqlOperations.Template

/-! A folded operation is frozen. It runs the batch that its statements were folded into, whatever
becomes of their creators, of the state that these read or of the defaults of the template. Its
options go on to change; they act on the batch as a whole, over what was set when it was folded. -/
namespace CqlOperations

variable {σ ρ : Type}

namespace Creator

/-- The creator leaves what it reads as it is. -/
def OnlyReads (c : Creator σ) : Prop :=
  ∀ state, (c.create state).2 = state

theorem onlyReads_constant (statement : Statement) :
    (constant statement : Creator σ).OnlyReads := fun _ => rfl

theorem state_createAll {creators : List (Creator σ)} (h : ∀ c ∈ creators, c.OnlyReads)
    (state : σ) : (createAll creators state).2 = state := by
  induction creators with
  | nil => rfl
  | cons creator rest ih =>
    obtain ⟨hfirst, hrest⟩ := List.forall_mem_cons.mp h
    have hstate := hfirst state
    cases hc : creator.create state with
    | mk created after =>
      obtain rfl : after = state := by rw [← hstate, hc]
      cases created with
      | error error => rw [createAll_cons_error hc]
      | ok statement => rw [createAll_cons_ok hc, ih hrest]

end Creator

theorem Operation.state_submit_of_onlyReads {o : Operation σ ρ}
    (h : ∀ c ∈ o.creators, c.OnlyReads) (path : Path) (state : σ) :
    (o.submit path state).2.2 = state := by
  rw [state_submit, createStatements_eq, Creator.state_createAll h]

/-- What may happen to an operation and around it. -/
inductive Happening (σ : Type) where
  | change (c : Change)
  | execute (path : Path)
  /-- What creators read changes by itself. -/
  | outside (f : σ → σ)
  | setDefaults (t : Template) (options : Options)

/-- An operation with all that it may depend on. -/
structure Deployment (σ ρ : Type) where
  operation : Operation σ ρ
  state : σ
  defaults : Defaults

namespace Happening

def change? : Happening σ → Option Change
  | change c => some c
  | _ => none

def outside? : Happening σ → Option (σ → σ)
  | outside f => some f
  | _ => none

/-- The same where the calls of creators are taken down; only creators do that. -/
def noted : Happening σ → Happening (σ × List Nat)
  | change c => .change c
  | execute path => .execute path
  | outside f => .outside (Prod.map f id)
  | setDefaults t options => .setDefaults t options

end Happening

namespace Deployment

def step (u : Deployment σ ρ) : Happening σ → Deployment σ ρ
  | .change c => { u with operation := u.operation.change c }
  | .execute path => { u with state := (u.operation.submit path u.state).2.2 }
  | .outside f => { u with state := f u.state }
  | .setDefaults t options => { u with defaults := t.setDefaults options u.defaults }

def run (u : Deployment σ ρ) (history : List (Happening σ)) : Deployment σ ρ :=
  history.foldl step u

/-- Only changes of the options change the operation. -/
theorem operation_run (u : Deployment σ ρ) (history : List (Happening σ)) :
    (u.run history).operation = { u.operation with
      options :=
        (history.filterMap Happening.change?).foldl Options.change u.operation.options } := by
  induction history generalizing u with
  | nil => rfl
  | cons happening rest ih =>
    refine (ih (u.step happening)).trans ?_
    cases happening <;> rfl

theorem options_run (u : Deployment σ ρ) (history : List (Happening σ)) :
    (u.run history).operation.options =
      (history.filterMap Happening.change?).foldl Options.change u.operation.options := by
  rw [operation_run]

/-- Where creators only read, what they read changes only outside. -/
theorem state_run {u : Deployment σ ρ} (h : ∀ c ∈ u.operation.creators, c.OnlyReads)
    (history : List (Happening σ)) :
    (u.run history).state =
      (history.filterMap Happening.outside?).foldl (fun state f => f state) u.state := by
  induction history generalizing u with
  | nil => rfl
  | cons happening rest ih =>
    have hstep : ∀ c ∈ (u.step happening).operation.creators, c.OnlyReads := by
      cases happening <;> exact h
    refine (ih hstep).trans ?_
    cases happening with
    | change c => rfl
    | execute path => rw [step, Operation.state_submit_of_onlyReads h]; rfl
    | outside f => rfl
    | setDefaults t options => rfl

/-- An operation without layers that hands out the same statement each time. -/
structure Runs (u : Deployment σ ρ) (statement : Statement) : Prop where
  base : u.operation.base = .single (.constant statement)
  layers : u.operation.layers = []

namespace Runs

variable {u : Deployment σ ρ} {statement : Statement}

/-- No execution calls anything that could change the state. -/
theorem submits (h : u.Runs statement) :
    u.operation.Submits u.state [statement.apply u.operation.options] u.state := by
  refine Operation.IsStack.submits ⟨fun _ _ hb => ?_, fun _ hl => ?_⟩ ?_
  · rw [h.base] at hb
    cases hb
  · rw [h.layers] at hl
    cases hl
  · simp only [Operation.createStatements, h.base]
    rfl

theorem run (h : u.Runs statement) (history : List (Happening σ)) :
    (u.run history).Runs statement := by
  have ho := u.operation_run history
  exact ⟨by rw [ho, h.base], by rw [ho, h.layers]⟩

theorem state_run (h : u.Runs statement) (history : List (Happening σ)) :
    (u.run history).state =
      (history.filterMap Happening.outside?).foldl (fun state f => f state) u.state := by
  refine Deployment.state_run (fun c hc => ?_) history
  rw [Operation.creators, h.base] at hc
  cases List.mem_singleton.mp hc
  exact Creator.onlyReads_constant statement

end Runs

/-- What holds of an operation that runs this batch, after a history that began with the options
`first` and the state `state`. -/
structure Frozen (type : BatchType) (parts : List Query) (settings : Settings)
    (values : List (List Value)) (first : Options) (state : σ) (history : List (Happening σ))
    (u : Deployment σ ρ) : Prop where
  options : Options.LastWins first (history.filterMap Happening.change?) u.operation.options
  state : u.state =
    (history.filterMap Happening.outside?).foldl (fun state f => f state) state
  submits : u.operation.Submits u.state
    [.batch type parts (settings.overlay u.operation.options) values] u.state
  unchanged : history.filterMap Happening.change? = [] →
    settings.overlay u.operation.options = settings
  takes : (settings.overlay u.operation.options).Takes u.operation.options
  inherits : (settings.overlay u.operation.options).Inherits settings u.operation.options

end Deployment

namespace Operation

/-- A preview calls every creator once too. -/
theorem toStatement_noted {o : Operation σ ρ} {type : BatchType} {creators : List (Creator σ)}
    (hb : o.base = .fanOut type creators) {state after : σ} {statement : Statement}
    (ht : o.toStatement state = (.ok statement, after)) (calls : List Nat) :
    o.noted.toStatement (state, calls) =
      (.ok statement, after, calls ++ List.range creators.length) := by
  have hn : o.noted.base = .fanOut type (Creator.notedFrom 0 creators) := by
    simp only [noted, hb]
  have hcreators : o.creators = creators := by rw [Operation.creators, hb]
  simp only [toStatement, hb] at ht
  cases hc : o.createStatements state with
  | mk created middle =>
    cases created with
    | error error => simp [hc] at ht
    | ok statements =>
      have hcalls := createStatements_noted hc calls
      rw [hcreators] at hcalls
      cases hf : Statement.fold type statements with
      | error error => simp [hc, hf] at ht
      | ok folded =>
        simp only [hc, hf, Prod.mk.injEq, Except.ok.injEq] at ht
        simp only [toStatement, hn, hcalls, hf]
        rw [← ht.1, ← ht.2]
        rfl

/-- `f` is `o`, folded on `state`. -/
structure Freezes (o : Operation σ ρ) (type : BatchType) (creators : List (Creator σ)) (state : σ)
    (parts : List Query) (settings : Settings) (values : List (List Value)) (f : Operation σ ρ)
    (after : σ) : Prop where
  toStatement : o.toStatement state = (.ok (.batch type parts settings values), after)
  length_parts : parts.length = creators.length
  length_values : values.length = creators.length
  options : f.options = o.options
  /-- The defaults that it is made with are replaced. -/
  made : ∀ (t : Template) (d : Defaults), t.translator = o.translator → t.runtime = o.runtime →
    f = (t.execute d (.constant (.batch type parts settings values))).withOptions o.options
  stays : ∀ (d : Defaults) (history : List (Happening σ)),
    Deployment.Frozen type parts settings values o.options after history
      (Deployment.run ⟨f, after, d⟩ history)
  /-- Each creator is called once, in order, and never again. -/
  calls : ∀ calls : List Nat, ∃ g : Operation (σ × List Nat) ρ,
    o.noted.folded (state, calls) = (.ok g, after, calls ++ List.range creators.length) ∧
      ∀ (d : Defaults) (history : List (Happening σ)),
        (Deployment.run ⟨g, (after, calls ++ List.range creators.length), d⟩
          (history.map Happening.noted)).state.2 = calls ++ List.range creators.length

theorem folded_eq_ok {o f : Operation σ ρ} {state after : σ}
    (h : o.folded state = (.ok f, after)) :
    ∃ statement, o.toStatement state = (.ok statement, after) ∧
      f = { o with base := .single (.constant statement) } := by
  unfold folded at h
  cases ht : o.toStatement state with
  | mk made last =>
    rw [ht] at h
    cases made with
    | error error => cases h
    | ok statement =>
      cases h
      exact ⟨statement, rfl, rfl⟩

/-- Outside changes leave the calls that were taken down. -/
theorem snd_foldl_noted (history : List (Happening σ)) (state : σ × List Nat) :
    (((history.map Happening.noted).filterMap Happening.outside?).foldl
      (fun state f => f state) state).2 = state.2 := by
  induction history generalizing state with
  | nil => rfl
  | cons happening rest ih =>
    cases happening with
    | change c => exact ih state
    | execute path => exact ih state
    | outside f => exact ih (Prod.map f id state)
    | setDefaults t options => exact ih state

/-- A batch that could be folded has become one statement for good. -/
theorem folded_freezes {o f : Operation σ ρ} {type : BatchType} {creators : List (Creator σ)}
    (hb : o.base = .fanOut type creators) (hl : o.layers = []) {state after : σ}
    (hf : o.folded state = (.ok f, after)) :
    ∃ parts values,
      o.Freezes type creators state parts (Settings.overlay {} o.options) values f after := by
  obtain ⟨statement, ht, rfl⟩ := folded_eq_ok hf
  obtain ⟨parts, values, rfl, hp, hv, -⟩ := createStatements_of_fanOut hb ht
  refine ⟨parts, values, ht, hp, hv, rfl, fun t d htr hrun => ?_, fun d history => ?_,
    fun calls => ?_⟩
  · simp only [Template.execute, Template.operation, withOptions, change, Options.change, htr,
      hrun, hl]
  · let batch := Statement.batch type parts (Settings.overlay {} o.options) values
    let u : Deployment σ ρ := ⟨{ o with base := .single (.constant batch) }, after, d⟩
    have hruns : u.Runs batch := ⟨rfl, hl⟩
    have hoptions := u.options_run history
    refine ⟨Options.lastWins_iff.mpr hoptions, hruns.state_run history,
      (hruns.run history).submits, fun hnone => ?_, Settings.takes_overlay _ _,
      Settings.inherits_overlay _ _⟩
    rw [hoptions, hnone]
    exact Settings.overlay_overlay_self _ _
  · have htn := toStatement_noted hb ht calls
    refine ⟨_, by rw [folded, htn]; rfl, fun d history => ?_⟩
    rw [Deployment.Runs.state_run ⟨rfl, hl⟩]
    exact snd_foldl_noted history _

end Operation

/-- Statements that run as one logged batch. -/
def Template.executeInBatch (t : Template) (d : Defaults) (statements : List Statement)
    (state : σ) : Except OperationError (Operation σ ρ) × σ :=
  (t.batch d .logged (statements.map Creator.constant)).folded state

def Template.tracing : Template :=
  ⟨⟨0⟩, .standard, .currentThread, 0⟩

def Defaults.tracing : Defaults :=
  ⟨[{ tracing := some true }]⟩

/-- A timestamp that is not set any more stays what it was when the batch was folded, under a state
that has changed since; a batch of statements that are there already is no different. -/
theorem folded_freezes_readers :
    (∃ f, Operation.readers.folded "x" = (.ok f, "xab") ∧
      (Deployment.run ⟨f, "xab", .tracing⟩ [.outside fun _ => "y", .execute .callback,
        .change (.replace { idempotent := some true })]).operation.Submits "y"
          [.batch .counter
            [⟨"xa", { timestamp := some 2 }⟩, ⟨"xab", { tracing := true, timestamp := some 2 }⟩]
            { idempotent := true, timestamp := some 2 } [[.int 7], [.int 7]]] "y") ∧
      ∃ f : Operation Unit Nat, Template.tracing.executeInBatch .tracing
          [.ofText "first", .ofText "second"] () = (.ok f, ()) ∧
        f.Submits () [.batch .logged
          [⟨"first", { tracing := true }⟩, ⟨"second", { tracing := true }⟩]
          { tracing := true } [[], []]] () := by
  constructor
  · have hf : Operation.readers.folded "x" = (.ok _, "xab") := rfl
    obtain ⟨parts, values, h⟩ := Operation.folded_freezes rfl rfl hf
    cases h.toStatement
    exact ⟨_, hf, (h.stays .tracing _).submits⟩
  · have hf : (Template.tracing.executeInBatch .tracing [.ofText "first", .ofText "second"] () :
        Except OperationError (Operation Unit Nat) × Unit) = (.ok _, ()) := rfl
    obtain ⟨parts, values, h⟩ := Operation.folded_freezes rfl rfl hf
    cases h.toStatement
    exact ⟨_, hf, (h.stays .tracing []).submits⟩

end CqlOperations
