import CqlOperations.Proofs.Batching
import CqlOperations.Proofs.Creation
import CqlOperations.Proofs.FanOut
import CqlOperations.Proofs.Sending
import CqlOperations.Simulation.Run

/-! The one statement that stands for an operation shows what an execution from the same state would
send, and showing it sends nothing. -/
namespace CqlOperations

variable {σ ρ : Type}

namespace Operation

variable {o : Operation σ ρ} {state after : σ} {statement : Statement}

/-- For a single statement the preview is the statement itself. -/
theorem createStatements_of_single {creator : Creator σ} (hb : o.base = .single creator)
    (ht : o.toStatement state = (.ok statement, after)) :
    o.createStatements state = (.ok [statement], after) := by
  simp only [toStatement, hb] at ht
  cases hc : creator.create state with
  | mk created middle =>
    cases created with
    | error error => simp [hc] at ht
    | ok made =>
      simp only [hc, Prod.mk.injEq, Except.ok.injEq] at ht
      simp only [createStatements, hb, Creator.createAll, hc, Except.map, List.map_cons,
        List.map_nil, ht]

/-- Without its statement there is neither a preview nor an execution. -/
theorem createStatements_of_single_error {creator : Creator σ} (hb : o.base = .single creator)
    {error : OperationError} (ht : o.toStatement state = (.error error, after)) :
    ∃ failure, error = .statementCreation failure ∧
      o.createStatements state = (.error failure, after) := by
  simp only [toStatement, hb] at ht
  cases hc : creator.create state with
  | mk created middle =>
    cases created with
    | ok made => simp [hc] at ht
    | error failure =>
      simp only [hc, Prod.mk.injEq, Except.error.injEq] at ht
      refine ⟨failure, ht.1.symm, ?_⟩
      simp only [createStatements, hb, Creator.createAll, hc, Except.map, ht.2]

/-- The parts of a batch are the statements it would send one by one; the options are applied to
each of them, and once more to the batch, which has no settings of its own before. -/
theorem createStatements_of_fanOut {type : BatchType} {creators : List (Creator σ)}
    (hb : o.base = .fanOut type creators)
    (ht : o.toStatement state = (.ok statement, after)) :
    ∃ parts values, statement = .batch type parts (Settings.overlay {} o.options) values ∧
      parts.length = creators.length ∧ values.length = creators.length ∧
      o.createStatements state = (.ok (List.zipWith .unprepared parts values), after) := by
  simp only [toStatement, hb] at ht
  cases hc : o.createStatements state with
  | mk created middle =>
    cases created with
    | error error => simp [hc] at ht
    | ok statements =>
      have hl : statements.length = creators.length := by
        obtain ⟨made, hall, rfl⟩ := createStatements_eq_ok_iff.mp hc
        rw [List.length_map, Creator.length_createAll hall, Operation.creators, hb]
      cases hf : Statement.fold type statements with
      | error error => simp [hc, hf] at ht
      | ok folded =>
        simp only [hc, hf, Prod.mk.injEq, Except.ok.injEq] at ht
        obtain ⟨parts, values, rfl, hp, hv, hs⟩ := Statement.eq_of_fold hf
        refine ⟨parts, values, ht.1.symm, hp.trans hl, hv.trans hl, ?_⟩
        rw [← hs, ← ht.2]

/-- An execution of `o` from `state`, on either path, submits `statements` and leaves `after`; the
session receives them as they are. -/
def Submits (o : Operation σ ρ) (state : σ) (statements : List Statement) (after : σ) : Prop :=
  ∀ path, ∃ s, o.submit path state = (.ok s, [], after) ∧ s.statements = statements ∧
    ∀ env, s.Sends env statements

theorem IsStack.submits (h : o.IsStack) {statements : List Statement}
    (hc : o.createStatements state = (.ok statements, after)) :
    o.Submits state statements after := by
  intro path
  have hs := h.submit_eq path state
  rw [hc] at hs
  exact ⟨_, hs, rfl, fun env => h.sends_statements (by rw [hs]) env⟩

/-- What the preview of an operation says of an execution from the same state. -/
structure Previews (o : Operation σ ρ) (state : σ) : Prop where
  single : ∀ creator statement after, o.base = .single creator →
    o.toStatement state = (.ok statement, after) → o.Submits state [statement] after
  refused : ∀ creator error after, o.base = .single creator →
    o.toStatement state = (.error error, after) →
      ∀ path, o.submit path state = (.error error, [], after)
  /-- Each part is one of the statements, each list of values that of the part. -/
  folded : ∀ type creators statement after, o.base = .fanOut type creators →
    o.toStatement state = (.ok statement, after) →
      ∃ parts values, statement = .batch type parts (Settings.overlay {} o.options) values ∧
        parts.length = creators.length ∧ values.length = creators.length ∧
        o.Submits state (List.zipWith .unprepared parts values) after

theorem IsStack.previews (h : o.IsStack) (state : σ) : o.Previews state where
  single _ _ _ hb ht := h.submits (createStatements_of_single hb ht)
  refused _ _ _ hb ht path := by
    obtain ⟨failure, rfl, hc⟩ := createStatements_of_single_error hb ht
    rw [h.submit_eq, hc]
  folded _ _ _ _ hb ht := by
    obtain ⟨parts, values, rfl, hp, hv, hc⟩ := createStatements_of_fanOut hb ht
    exact ⟨parts, values, rfl, hp, hv, h.submits hc⟩

end Operation

namespace Simulation

/-- A preview changes what the creators change, and nothing else. -/
theorem Scene.step_toStatement (s : Scene ρ) {id : String} {o : Operation String ρ}
    (ho : s.operations.lookup id = some o) :
    (s.step (.toStatement id)).1 = { s with state := (o.toStatement s.state).2 } := by
  simp only [step, withOperation, ho]
  cases o.toStatement s.state with
  | mk made after => cases made <;> rfl

end Simulation

/-- The preview of a stack shows what an execution of it from the same state would send, or why it
would send nothing, and sends nothing itself. -/
theorem Operation.IsStack.preview {o : Operation String ρ} (h : o.IsStack)
    (s : Simulation.Scene ρ) {id : String} (ho : s.operations.lookup id = some o) :
    o.Previews s.state ∧
      (s.step (.toStatement id)).1 = { s with state := (o.toStatement s.state).2 } :=
  ⟨h.previews s.state, s.step_toStatement ho⟩

/-! Two statements with the state in their texts, the second of which says how it is to be run. -/

/-- Adds its mark to the state and makes a statement of it. -/
def Creator.reading (mark : String) (settings : Settings) : Creator String :=
  ⟨fun state => (.ok (.unprepared ⟨state ++ mark, settings⟩ [.int 7]), state ++ mark)⟩

def Operation.readers : Operation String Nat where
  translator := .standard
  runtime := .currentThread
  base := .fanOut .counter [.reading "a" {}, .reading "b" { tracing := true, timestamp := some 1 }]
  options := { timestamp := some 2 }

theorem Operation.isStack_readers : readers.IsStack where
  sends _ _ h := by simp [readers] at h
  transforms _ hl := absurd hl List.not_mem_nil

def Simulation.Scene.reading : Scene Nat :=
  { Scene.replying with operations := [("readers", Operation.readers.transform .keeping)]
                        state := "x" }

theorem preview_of_readers :
    (Operation.readers.transform .keeping).toStatement "x" =
        (.ok (.batch .counter
          [⟨"xa", { timestamp := some 2 }⟩, ⟨"xab", { tracing := true, timestamp := some 2 }⟩]
          { timestamp := some 2 } [[.int 7], [.int 7]]), "xab") ∧
      (Operation.readers.transform .keeping).Submits "x"
        [.unprepared ⟨"xa", { timestamp := some 2 }⟩ [.int 7],
          .unprepared ⟨"xab", { tracing := true, timestamp := some 2 }⟩ [.int 7]] "xab" ∧
      (Simulation.Scene.reading.step (.toStatement "readers")).1 =
        { Simulation.Scene.reading with state := "xab" } := by
  have ho : Simulation.Scene.reading.operations.lookup "readers" =
      some (Operation.readers.transform .keeping) := by
    simp only [Simulation.Scene.reading, List.lookup_cons_self]
  obtain ⟨hp, hstep⟩ :=
    (Operation.isStack_readers.transform .keeping).preview Simulation.Scene.reading ho
  obtain ⟨parts, values, hbatch, -, -, hsubmits⟩ := hp.folded _ _ _ _ rfl rfl
  cases hbatch
  exact ⟨rfl, hsubmits, hstep⟩

end CqlOperations
