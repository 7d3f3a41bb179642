import CqlOperations.Proofs.Paths

/-! Creation is all or nothing. Creators are called in order up to the first one that fails, each of
them once; its error is what every call that runs the operation returns, and all that it does. -/
namespace CqlOperations

variable {σ ρ : Type}

namespace Creator

/-- Of some creators, called in order on a state, the one at a position is the first that fails. It
leaves the state `after`. -/
inductive Fails : List (Creator σ) → σ → Nat → CreationError → σ → Prop where
  | here {creator : Creator σ} {rest : List (Creator σ)} {state after : σ} {error : CreationError}
      (hc : creator.create state = (.error error, after)) :
      Fails (creator :: rest) state 0 error after
  | later {creator : Creator σ} {rest : List (Creator σ)} {state middle after : σ}
      {statement : Statement} {position : Nat} {error : CreationError}
      (hc : creator.create state = (.ok statement, middle))
      (hr : Fails rest middle position error after) :
      Fails (creator :: rest) state (position + 1) error after

theorem createAll_cons_error {creator : Creator σ} {state after : σ} {error : CreationError}
    (hc : creator.create state = (.error error, after)) (rest : List (Creator σ)) :
    createAll (creator :: rest) state = (.error error, after) := by
  rw [createAll, hc]

theorem createAll_cons_ok {creator : Creator σ} {state middle : σ} {statement : Statement}
    (hc : creator.create state = (.ok statement, middle)) (rest : List (Creator σ)) :
    createAll (creator :: rest) state =
      ((createAll rest middle).1.map (statement :: ·), (createAll rest middle).2) := by
  simp only [createAll, hc]
  cases createAll rest middle with
  | mk created after => cases created <;> rfl

/-- The first failure is what comes of creating all statements, whatever came before it. -/
theorem createAll_eq_error_iff {creators : List (Creator σ)} {state after : σ}
    {error : CreationError} :
    createAll creators state = (.error error, after) ↔
      ∃ position, Fails creators state position error after := by
  constructor
  · intro h
    induction creators generalizing state with
    | nil => simp [createAll] at h
    | cons creator rest ih =>
      cases hc : creator.create state with
      | mk created middle =>
        cases created with
        | error failure =>
          rw [createAll_cons_error hc] at h
          cases h
          exact ⟨0, .here hc⟩
        | ok statement =>
          rw [createAll_cons_ok hc, Prod.mk.injEq] at h
          have hr : createAll rest middle = (.error error, after) := by
            apply Prod.ext
            · cases hm : (createAll rest middle).1 with
              | error failure => simpa [hm, Except.map] using h.1
              | ok statements => simp [hm, Except.map] at h
            · exact h.2
          obtain ⟨position, hf⟩ := ih hr
          exact ⟨position + 1, .later hc hf⟩
  · rintro ⟨position, h⟩
    induction h with
    | here hc => exact createAll_cons_error hc _
    | later hc _ ih =>
      rw [createAll_cons_ok hc, ih]
      rfl

/-- Takes down the position it is called at. -/
def noted (position : Nat) (creator : Creator σ) : Creator (σ × List Nat) :=
  ⟨fun (state, calls) =>
    let (created, state) := creator.create state
    (created, state, calls ++ [position])⟩

/-- All of some creators, the first of them at `position`. -/
def notedFrom (position : Nat) : List (Creator σ) → List (Creator (σ × List Nat))
  | [] => []
  | creator :: rest => creator.noted position :: notedFrom (position + 1) rest

@[simp] theorem create_noted (creator : Creator σ) (position : Nat) (state : σ)
    (calls : List Nat) :
    (creator.noted position).create (state, calls) =
      ((creator.create state).1, (creator.create state).2, calls ++ [position]) := rfl

/-- Taking down the calls changes nothing else. -/
theorem createAll_notedFrom (creators : List (Creator σ)) (position : Nat) (state : σ)
    (calls : List Nat) :
    (createAll (notedFrom position creators) (state, calls)).1 = (createAll creators state).1 ∧
      (createAll (notedFrom position creators) (state, calls)).2.1 =
        (createAll creators state).2 := by
  induction creators generalizing position state calls with
  | nil => exact ⟨rfl, rfl⟩
  | cons creator rest ih =>
    have hn := creator.create_noted position state calls
    rw [notedFrom]
    cases hc : creator.create state with
    | mk created middle =>
      rw [hc] at hn
      cases created with
      | error error =>
        rw [createAll_cons_error hn, createAll_cons_error hc]
        exact ⟨rfl, rfl⟩
      | ok statement =>
        obtain ⟨hmade, hstate⟩ := ih (position + 1) middle (calls ++ [position])
        rw [createAll_cons_ok hn, createAll_cons_ok hc, hmade]
        exact ⟨rfl, hstate⟩

/-- Up to the first one that fails each creator is called once, in order, and none after it. -/
theorem Fails.notedFrom {creators : List (Creator σ)} {state after : σ} {position : Nat}
    {error : CreationError} (h : Fails creators state position error after) (first : Nat)
    (calls : List Nat) :
    Fails (notedFrom first creators) (state, calls) position error
      (after, calls ++ List.range' first (position + 1)) := by
  induction h generalizing first calls with
  | here hc =>
    apply Fails.here
    rw [create_noted, hc]
    rfl
  | @later creator rest state middle after statement position error hc _ ih =>
    have hn : (creator.noted first).create (state, calls) =
        (.ok statement, middle, calls ++ [first]) := by rw [create_noted, hc]
    have hcalls : calls ++ List.range' first (position + 1 + 1) =
        calls ++ [first] ++ List.range' (first + 1) (position + 1) := by
      rw [List.range'_succ, List.append_assoc, List.singleton_append]
    rw [hcalls]
    exact .later hn (ih (first + 1) (calls ++ [first]))

/-- Where none fails each creator is called once, in order. -/
theorem createAll_notedFrom_ok {creators : List (Creator σ)} {state after : σ}
    {created : List Statement} (h : createAll creators state = (.ok created, after)) (first : Nat)
    (calls : List Nat) :
    createAll (notedFrom first creators) (state, calls) =
      (.ok created, after, calls ++ List.range' first creators.length) := by
  induction creators generalizing first calls state created with
  | nil =>
    cases h
    simp [notedFrom, createAll]
  | cons creator rest ih =>
    cases hc : creator.create state with
    | mk made middle =>
      have hn := creator.create_noted first state calls
      rw [hc] at hn
      cases made with
      | error error =>
        rw [createAll_cons_error hc] at h
        cases h
      | ok statement =>
        rw [createAll_cons_ok hc] at h
        cases hr : createAll rest middle with
        | mk more last =>
          rw [hr] at h
          cases more with
          | error error => cases h
          | ok statements =>
            cases h
            rw [notedFrom, createAll_cons_ok hn, ih hr, List.length_cons, List.range'_succ,
              List.append_assoc, List.singleton_append]
            rfl

end Creator

namespace Operation

/-- The creators that one execution calls, in order. -/
def creators (o : Operation σ ρ) : List (Creator σ) :=
  match o.base with
  | .single creator => [creator]
  | .fanOut _ creators => creators
  | .known _ _ => []

/-- The same operation, whose creators take down their calls. -/
def noted (o : Operation σ ρ) : Operation (σ × List Nat) ρ where
  translator := o.translator
  runtime := o.runtime
  base := match o.base with
    | .single creator => .single (creator.noted 0)
    | .fanOut type creators => .fanOut type (Creator.notedFrom 0 creators)
    | .known statement result => .known statement result
  layers := o.layers
  options := o.options

theorem creators_noted (o : Operation σ ρ) :
    o.noted.creators = Creator.notedFrom 0 o.creators := by
  unfold noted creators
  cases o.base <;> rfl

/-- The statements of one execution are what its creators make, with the options applied. -/
theorem createStatements_eq (o : Operation σ ρ) (state : σ) :
    o.createStatements state =
      ((Creator.createAll o.creators state).1.map fun created =>
        created.map (Statement.apply o.options), (Creator.createAll o.creators state).2) := by
  unfold createStatements creators
  cases o.base <;> rfl

theorem createStatements_eq_ok_iff {o : Operation σ ρ} {state after : σ}
    {statements : List Statement} :
    o.createStatements state = (.ok statements, after) ↔
      ∃ created, Creator.createAll o.creators state = (.ok created, after) ∧
        statements = created.map (Statement.apply o.options) := by
  rw [createStatements_eq]
  cases hc : Creator.createAll o.creators state with
  | mk made last =>
    cases made with
    | error error => simp [Except.map]
    | ok created =>
      simp only [Except.map, Prod.mk.injEq, Except.ok.injEq]
      constructor
      · rintro ⟨rfl, rfl⟩
        exact ⟨created, ⟨rfl, rfl⟩, rfl⟩
      · rintro ⟨made, ⟨rfl, rfl⟩, rfl⟩
        exact ⟨rfl, rfl⟩

theorem createStatements_eq_error_iff {o : Operation σ ρ} {state after : σ}
    {error : CreationError} :
    o.createStatements state = (.error error, after) ↔
      Creator.createAll o.creators state = (.error error, after) := by
  rw [createStatements_eq]
  cases Creator.createAll o.creators state with
  | mk made last => cases made <;> simp [Except.map]

/-- Every creator is called once, and taking down the calls changes nothing else. -/
theorem createStatements_noted {o : Operation σ ρ} {state after : σ} {statements : List Statement}
    (h : o.createStatements state = (.ok statements, after)) (calls : List Nat) :
    o.noted.createStatements (state, calls) =
      (.ok statements, after, calls ++ List.range o.creators.length) := by
  obtain ⟨created, hc, rfl⟩ := createStatements_eq_ok_iff.mp h
  refine createStatements_eq_ok_iff.mpr ⟨created, ?_, rfl⟩
  rw [creators_noted, Creator.createAll_notedFrom_ok hc, List.range_eq_range']

/-- The operation cannot create its statements on `state`, and none of the calls that use them does
more than say so. -/
structure Refuses (o : Operation σ ρ) (state : σ) (error : CreationError) (after : σ) : Prop where
  submit : ∀ path, o.submit path state = (.error (.statementCreation error), [], after)
  toStatement : o.toStatement state = (.error (.statementCreation error), after)
  folded : o.folded state = (.error (.statementCreation error), after)

theorem createStatements_of_fails {o : Operation σ ρ} {state after : σ} {position : Nat}
    {error : CreationError} (hf : Creator.Fails o.creators state position error after) :
    o.createStatements state = (.error error, after) :=
  createStatements_eq_error_iff.mpr (Creator.createAll_eq_error_iff.mpr ⟨position, hf⟩)

theorem toStatement_of_fails {o : Operation σ ρ} {state after : σ} {position : Nat}
    {error : CreationError} (hf : Creator.Fails o.creators state position error after) :
    o.toStatement state = (.error (.statementCreation error), after) := by
  have hc := createStatements_of_fails hf
  cases hb : o.base with
  | single creator =>
    -- the only creator of a single statement is the one that fails
    have hcreate : creator.create state = (.error error, after) := by
      simp only [creators, hb] at hf
      cases hf with
      | here hc => exact hc
      | later hc hr => cases hr
    simp only [toStatement, hb, hcreate]
  | fanOut type creators => simp only [toStatement, hb, hc]
  | known statement result =>
    simp only [createStatements, hb] at hc
    cases hc

namespace IsStack

variable {o : Operation σ ρ}

theorem noted (h : o.IsStack) : o.noted.IsStack where
  sends statement result hb := by
    simp only [Operation.noted] at hb
    split at hb
    next => cases hb
    next => cases hb
    next statement result hknown => exact h.sends statement result hknown
  transforms := h.transforms

theorem refuses (h : o.IsStack) {state after : σ} {position : Nat} {error : CreationError}
    (hf : Creator.Fails o.creators state position error after) : o.Refuses state error after where
  submit path := by
    rw [h.submit_eq, createStatements_of_fails hf]
  toStatement := toStatement_of_fails hf
  folded := by
    rw [folded, toStatement_of_fails hf]
    rfl

end IsStack
end Operation

namespace Simulation

/-- Calls that run an operation return its creation error and leave no trace but the state of the
creators: no statement sent, no execution begun, no task handed over, nothing reported. -/
structure Scene.Refuses (s : Scene ρ) (o : Operation String ρ) (error : CreationError)
    (after : String) : Prop where
  execute : s.execute o = ({ s with state := after }, .error (.statementCreation error))
  /-- There is no handle. -/
  submit : s.submit o = ({ s with state := after }, .error (.statementCreation error))
  executeDetached : ∀ limit,
    s.executeDetached o limit = ({ s with state := after }, .error (.statementCreation error))
  callback : ∀ name,
    s.callback o name = ({ s with state := after }, .error (.statementCreation error))
  /-- Polled once the call is over. -/
  start : ∀ name, s.start o name = ({ s with state := after }, .started true)

theorem Scene.launch_of_refuses {s : Scene ρ} {o : Operation String ρ} {error : CreationError}
    {after : String} (h : o.Refuses s.state error after) (path : Path) (name : String) :
    s.launch o path name = ({ s with state := after }, .error (.statementCreation error)) := by
  rw [launch, h.submit path]
  rfl

theorem Scene.refuses {s : Scene ρ} {o : Operation String ρ} {error : CreationError}
    {after : String} (h : o.Refuses s.state error after) : s.Refuses o error after := by
  have hs : s.submit o = ({ s with state := after }, .error (.statementCreation error)) := by
    rw [submit, launch_of_refuses h]
  refine ⟨?_, hs, fun limit => ?_, fun name => ?_, fun name => ?_⟩
  · rw [execute, launch_of_refuses h]
  · rw [executeDetached, hs]
  · rw [callback, launch_of_refuses h]
  · rw [start, launch_of_refuses h]

end Simulation

/-- Where the creator at a position is the first one that fails, its error is all that comes of any
use of a stack, whether its statements could be folded or not. The creators up to that one have been
called, each once and in order. -/
theorem Operation.IsStack.creation_fails {o : Operation String ρ} (h : o.IsStack)
    (s : Simulation.Scene ρ) {position : Nat} {error : CreationError} {after : String}
    (hf : Creator.Fails o.creators s.state position error after) :
    o.Refuses s.state error after ∧ s.Refuses o error after ∧
      ∀ calls, o.noted.Refuses (s.state, calls) error
        (after, calls ++ List.range (position + 1)) := by
  have hrefuses := h.refuses hf
  refine ⟨hrefuses, Simulation.Scene.refuses hrefuses, fun calls => ?_⟩
  apply h.noted.refuses
  rw [creators_noted, List.range_eq_range']
  exact hf.notedFrom 0 calls

/-! Four statements, the first of which could not be folded and the third of which cannot be
created. -/

/-- Adds its mark to the state. -/
def Creator.marking (mark : String) (created : Except CreationError Statement) : Creator String :=
  ⟨fun state => (created, state ++ mark)⟩

def Operation.broken : Operation String Nat where
  translator := .standard
  runtime := .currentThread
  base := .fanOut .logged
    [.marking "a" (.ok (.prepared ⟨"first", {}⟩ [])), .marking "b" (.ok (.ofText "second")),
      .marking "c" (.error ⟨"no statement"⟩), .marking "d" (.ok (.ofText "fourth"))]
  layers := [.transform .keeping]
  options := { handler := some ⟨"log"⟩ }

theorem Operation.isStack_broken : broken.IsStack where
  sends _ _ h := by simp [broken] at h
  transforms layer hl := ⟨.keeping, List.mem_singleton.mp hl⟩

theorem creation_fails_of_broken :
    (Simulation.Scene.replying.execute .broken).2 = .error (.statementCreation ⟨"no statement"⟩) ∧
      (Simulation.Scene.replying.execute .broken).1 =
        { Simulation.Scene.replying with state := "abc" } ∧
      (Operation.broken.folded "").1 = .error (.statementCreation ⟨"no statement"⟩) ∧
      (Operation.broken.noted.submit .caller ("", [])).2.2.2 = [0, 1, 2] := by
  have hf : Creator.Fails Operation.broken.creators "" 2 ⟨"no statement"⟩ "abc" := by
    apply Creator.Fails.later rfl
    apply Creator.Fails.later rfl
    exact Creator.Fails.here rfl
  obtain ⟨hplain, hscene, hnoted⟩ :=
    Operation.isStack_broken.creation_fails Simulation.Scene.replying hf
  have hfolded : Operation.broken.folded "" = _ := hplain.folded
  have hcalls : Operation.broken.noted.submit .caller ("", []) = _ := (hnoted []).submit .caller
  rw [hscene.execute, hfolded, hcalls]
  exact ⟨rfl, rfl, rfl, rfl⟩

end CqlOperations
