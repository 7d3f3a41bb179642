import CqlOperations.Proofs.Batching
import CqlOperations.Proofs.Folding
import CqlOperations.Proofs.Translation

/-! An ingest binds each row of values to its statement once. It sends one statement for each row,
with the row in place of the values that were bound before, and the statement that it was made of
stays as it was. -/
namespace CqlOperations

variable {σ ρ : Type}

namespace Statement

/-- `t` is `s` with a row in place of its own values, under the options. -/
structure Binds (s : Statement) (row : List Value) (o : Options) (t : Statement) : Prop where
  kind : t.kind = s.kind
  text : t.text? = s.text?
  values : t.valueLists = [row]
  takes : t.settings.Takes o
  inherits : t.settings.Inherits s.settings o

/-- The statement with a row in place of its own values; a batch stays as it is. -/
def withRow (s : Statement) (row : List Value) : Statement :=
  (s.rebind? row).getD s

/-- The statement with each of the rows, under the options. -/
def bindAll (s : Statement) (o : Options) (rows : List (List Value)) : List Statement :=
  rows.map fun row => (s.withRow row).apply o

variable {s : Statement}

theorem rebind?_of_ne_batch (h : s.kind ≠ .batch) (row : List Value) :
    s.rebind? row = some (s.withRow row) := by
  cases s with
  | unprepared query values => rfl
  | prepared query values => rfl
  | batch type parts settings values => exact absurd rfl h

theorem rebind?_of_batch (h : s.kind = .batch) (row : List Value) : s.rebind? row = none := by
  cases s with
  | unprepared query values => cases h
  | prepared query values => cases h
  | batch type parts settings values => rfl

/-- What was bound first is gone. -/
theorem rebind?_rebind? {t : Statement} {values : List Value} (h : s.rebind? values = some t)
    (row : List Value) : t.rebind? row = s.rebind? row := by
  cases s with
  | unprepared query own => cases h; rfl
  | prepared query own => cases h; rfl
  | batch type parts settings own => cases h

theorem binds_withRow (h : s.kind ≠ .batch) (row : List Value) (o : Options) :
    s.Binds row o ((s.withRow row).apply o) := by
  have hsettings : (s.withRow row).settings = s.settings := by cases s <;> rfl
  have ho := overlaid_apply o (s.withRow row)
  refine ⟨?_, ?_, ?_, ho.takes, hsettings ▸ ho.inherits⟩
  · cases s <;> rfl
  · cases s <;> rfl
  · cases s with
    | unprepared query values => rfl
    | prepared query values => rfl
    | batch type parts settings values => exact absurd rfl h

theorem getElem?_bindAll (h : s.kind ≠ .batch) (o : Options) {rows : List (List Value)} {i : Nat}
    {row : List Value} (hrow : rows[i]? = some row) :
    ∃ t, (s.bindAll o rows)[i]? = some t ∧ s.Binds row o t := by
  refine ⟨_, ?_, s.binds_withRow h row o⟩
  rw [bindAll, List.getElem?_map, hrow]
  rfl

section

variable (type : BatchType) (o : Options) {rows : List (List Value)} (hr : rows ≠ [])
include hr

theorem fold_bindAll_unprepared (h : s.kind = .unprepared) :
    ∃ parts : List Query, parts.length = rows.length ∧
      s.bindAll o rows = List.zipWith .unprepared parts rows ∧
        fold type (s.bindAll o rows) = .ok (.batch type parts {} rows) := by
  cases s with
  | prepared query values => cases h
  | batch type parts settings values => cases h
  | unprepared query values =>
    let bound := rows.map fun row => (query.apply o, row)
    have hbound : (unprepared query values).bindAll o rows =
        bound.map fun part => .unprepared part.1 part.2 := by
      rw [List.map_map]
      rfl
    have hsnd : bound.map Prod.snd = rows := by
      rw [List.map_map]
      exact List.map_id rows
    have hne : bound ≠ [] := by simpa only [bound, ne_eq, List.map_eq_nil_iff] using hr
    refine ⟨bound.map Prod.fst, by simp only [bound, List.length_map], ?_, ?_⟩
    · have hzip : List.zipWith unprepared (bound.map Prod.fst) (bound.map Prod.snd) =
          bound.map fun part => unprepared part.1 part.2 := by
        rw [List.zipWith_map, List.zipWith_self]
      rw [hbound, ← hzip, hsnd]
    · rw [hbound, fold_unprepared type hne, hsnd]

/-- The first statement is one too many already. -/
theorem fold_bindAll_prepared (h : s.kind = .prepared) :
    fold type (s.bindAll o rows) = .error (.notFoldable 0 .prepared) := by
  cases s with
  | unprepared query values => cases h
  | batch type parts settings values => cases h
  | prepared query values =>
    cases rows with
    | nil => exact absurd rfl hr
    | cons row rest => rfl

end
end Statement

namespace Creator

variable {s : Statement}

theorem ofRow_of_ne_batch (h : s.kind ≠ .batch) (row : List Value) :
    (ofRow s row : Creator σ) = constant (s.withRow row) := by
  simp only [ofRow, constant, s.rebind?_of_ne_batch h]

theorem createAll_map_constant (statements : List Statement) (state : σ) :
    createAll (statements.map constant) state = (.ok statements, state) := by
  induction statements with
  | nil => rfl
  | cons statement rest ih =>
    have hc : (constant statement).create state = (.ok statement, state) := rfl
    rw [List.map_cons, createAll_cons_ok hc, ih]
    rfl

theorem createAll_ofRow (h : s.kind ≠ .batch) (rows : List (List Value)) (state : σ) :
    createAll (rows.map (ofRow s)) state = (.ok (rows.map s.withRow), state) := by
  have hconstant : rows.map (ofRow s : List Value → Creator σ) =
      (rows.map s.withRow).map constant := by
    rw [List.map_map]
    exact List.map_congr_left fun row _ => ofRow_of_ne_batch h row
  rw [hconstant, createAll_map_constant]

theorem fails_ofRow (h : s.kind = .batch) {rows : List (List Value)} (hr : rows ≠ [])
    (state : σ) :
    Fails (rows.map (ofRow s)) state 0 ⟨"a batch cannot be bound to a row of values"⟩ state := by
  cases rows with
  | nil => exact absurd rfl hr
  | cons row rest =>
    apply Fails.here
    simp only [ofRow, s.rebind?_of_batch h]

theorem ofRow_rebind? {t : Statement} {values : List Value} (h : s.rebind? values = some t) :
    (ofRow t : List Value → Creator σ) = ofRow s := by
  funext row
  simp only [ofRow, Statement.rebind?_rebind? h]

end Creator

namespace Operation

/-- Each execution on `state` sends `statements`, and the slot at a position of its result is what
became of the statement there. -/
structure RunsEach (o : Operation σ ρ) (state : σ) (statements : List Statement) : Prop where
  submits : o.Submits state statements state
  gives : ∀ path s, (o.submit path state).1 = .ok s → ∀ env, ∃ b : BatchResult ρ,
    b.slots.length = statements.length ∧
      (∀ i < statements.length, b.slots[i]? = some (match env.outcome i with
        | .answered reply => .ok reply
        | .failed failure => .failed (o.translator.translateFailure failure)
        | .panicked message => .failed (.panicked message)
        | .cancelled => .absent)) ∧
      s.Gives env (.ok (.batch b)) ∧
      ∀ moves output, .deliver output ∈ ((Course.start s).run env moves).handed →
        output = .batch b

/-- What comes of an operation on `state` that runs `s` once for each of `rows`. -/
structure Ingests (o : Operation σ ρ) (type : BatchType) (s : Statement)
    (rows : List (List Value)) (state : σ) : Prop where
  /-- What is folded is what is sent one by one. -/
  binds : s.kind ≠ .batch → ∃ bound : List Statement, o.RunsEach state bound ∧
    bound.length = rows.length ∧
      (∀ (i : Nat) row, rows[i]? = some row →
        ∃ t, bound[i]? = some t ∧ s.Binds row o.options t) ∧
      (s.kind = .unprepared → rows ≠ [] → ∃ parts : List Query, parts.length = rows.length ∧
        bound = List.zipWith .unprepared parts rows ∧
          o.toStatement state =
            (.ok (.batch type parts (Settings.overlay {} o.options) rows), state))
  prepared : s.kind = .prepared → rows ≠ [] →
    o.toStatement state = (.error (.usage (.notFoldable 0 .prepared)), state)
  refuses : s.kind = .batch → rows ≠ [] →
    o.Refuses state ⟨"a batch cannot be bound to a row of values"⟩ state
  /-- Whatever `s` is. -/
  empty : rows = [] → o.RunsEach state [] ∧
    (∀ path x, (o.submit path state).1 = .ok x → x.handle = .ready (.ok (.batch ⟨[]⟩))) ∧
      o.toStatement state = (.error (.usage .emptyBatch), state)

section

variable {o : Operation σ ρ} {type : BatchType} {creators : List (Creator σ)}
  (hb : o.base = .fanOut type creators) {state after : σ} {statements : List Statement}
  (hc : o.createStatements state = (.ok statements, after))
include hb hc

theorem toStatement_of_fold_ok {batch : Statement}
    (hf : Statement.fold type statements = .ok batch) :
    o.toStatement state = (.ok (batch.apply o.options), after) := by
  simp only [toStatement, hb, hc, hf]

theorem toStatement_of_fold_error {error : UsageError}
    (hf : Statement.fold type statements = .error error) :
    o.toStatement state = (.error (.usage error), after) := by
  simp only [toStatement, hb, hc, hf]

end

section

variable {o : Operation σ ρ} {type : BatchType} {creators : List (Creator σ)}
  (hb : o.base = .fanOut type creators) (hl : o.layers = []) {state : σ}
include hb hl

theorem isStack_of_fanOut : o.IsStack where
  sends statement result h := by rw [hb] at h; cases h
  transforms layer h := by rw [hl] at h; cases h

theorem runsEach {statements : List Statement}
    (hc : o.createStatements state = (.ok statements, state)) : o.RunsEach state statements := by
  have hstack := isStack_of_fanOut hb hl
  have hprocessors : o.processors = [] := by simp only [processors, hl, List.filterMap_nil]
  refine ⟨hstack.submits hc, fun path s hs env => ?_⟩
  obtain ⟨created, hcreated, rfl⟩ := hstack.submit_ok hs
  rw [hc] at hcreated
  cases hcreated
  have hg : o.base.gathered? o.translator env.outcome statements.length =
      some (.returned (.ok (.batch (.ofOutcomes o.translator env.outcome statements.length)))) := by
    rw [hb, Base.gathered?]
  refine ⟨_, BatchResult.size_ofOutcomes .., fun i hi => ?_,
    (hstack.carries hs hg).alone hprocessors⟩
  rw [BatchResult.getElem?_ofOutcomes _ _ hi]
  cases env.outcome i <;> rfl

/-- Without statements the result is there from the start. -/
theorem handle_of_createStatements_nil (hc : o.createStatements state = (.ok [], state))
    {path : Path} {s : Submission ρ} (hs : (o.submit path state).1 = .ok s) :
    s.handle = .ready (.ok (.batch ⟨[]⟩)) := by
  obtain ⟨created, hcreated, rfl⟩ := (isStack_of_fanOut hb hl).submit_ok hs
  rw [hc] at hcreated
  cases hcreated
  simp only [Submission.handle, Pending.ofExecution, Execution.known?, submission, gathering, hb,
    processors, hl, List.filterMap_nil, List.isEmpty_nil, if_true]

end

section

variable {o : Operation σ ρ} {type : BatchType} {s : Statement} {rows : List (List Value)}
  (hb : o.base = .fanOut type (rows.map (Creator.ofRow s)))
include hb

theorem createStatements_ofRow (hs : s.kind ≠ .batch) (state : σ) :
    o.createStatements state = (.ok (s.bindAll o.options rows), state) := by
  simp only [createStatements, hb, Creator.createAll_ofRow hs, Except.map, List.map_map]
  rfl

theorem ingests (hl : o.layers = []) (state : σ) : o.Ingests type s rows state where
  binds hs := by
    have hc := createStatements_ofRow hb hs state
    refine ⟨_, runsEach hb hl hc, List.length_map .., fun i row hrow =>
      s.getElem?_bindAll hs o.options hrow, fun hkind hr => ?_⟩
    obtain ⟨parts, hlength, hbound, hf⟩ :=
      s.fold_bindAll_unprepared type o.options hr hkind
    exact ⟨parts, hlength, hbound, toStatement_of_fold_ok hb hc hf⟩
  prepared hkind hr := by
    have hs : s.kind ≠ .batch := by rw [hkind]; decide
    exact toStatement_of_fold_error hb (createStatements_ofRow hb hs state)
      (s.fold_bindAll_prepared type o.options hr hkind)
  refuses hkind hr := by
    have hf := Creator.fails_ofRow hkind hr state
    have hcreators : o.creators = rows.map (Creator.ofRow s) := by rw [creators, hb]
    exact (isStack_of_fanOut hb hl).refuses (hcreators ▸ hf)
  empty hr := by
    subst hr
    have hc : o.createStatements state = (.ok [], state) := by
      simp only [createStatements, hb]
      rfl
    exact ⟨runsEach hb hl hc, fun path x hx => handle_of_createStatements_nil hb hl hc hx,
      toStatement_of_fold_error hb hc rfl⟩

end
end Operation

/-- What holds of an operation that runs `s` once for each of `rows`, after a history that began
with the options `first` and the state `state`. -/
structure Deployment.Ingests (type : BatchType) (s : Statement) (rows : List (List Value))
    (first : Options) (state : String) (history : List (Happening String))
    (u : Deployment String ρ) : Prop where
  options : Options.LastWins first (history.filterMap Happening.change?) u.operation.options
  state : u.state =
    (history.filterMap Happening.outside?).foldl (fun state f => f state) state
  ingests : u.operation.Ingests type s rows u.state
  /-- A program that runs it finds out before anything happens. -/
  refused : s.kind = .batch → rows ≠ [] → ∀ scene : Simulation.Scene ρ, scene.state = u.state →
    scene.Refuses u.operation ⟨"a batch cannot be bound to a row of values"⟩ u.state

/-- An ingest runs its statement once for each row, as it was given and with the row in place of its
own values, however often it was executed before and whatever its options have become. The values
that were bound at first have no part in it. -/
theorem Template.ingest_binds_rows (t : Template) (d : Defaults) (type : BatchType)
    (s : Statement) (rows : List (List Value)) :
    (∀ (state : String) (history : List (Happening String)),
      Deployment.Ingests type s rows (t.defaults d) state history
        (Deployment.run ⟨(t.ingest d type s rows : Operation String ρ), state, d⟩ history)) ∧
      ∀ values other, s.rebind? values = some other →
        (t.ingest d type other rows : Operation String ρ) = t.ingest d type s rows := by
  refine ⟨fun state history => ?_, fun values other h => ?_⟩
  · let u : Deployment String ρ := ⟨t.ingest d type s rows, state, d⟩
    have ho := u.operation_run history
    have hb : (u.run history).operation.base = .fanOut type (rows.map (Creator.ofRow s)) := by
      rw [ho]
      rfl
    have hl : (u.run history).operation.layers = [] := by
      rw [ho]
      rfl
    have hingests := Operation.ingests hb hl (u.run history).state
    refine ⟨Options.lastWins_iff.mpr (u.options_run history),
      Deployment.state_run (fun c hc => ?_) history, hingests, fun hs hr scene hstate => ?_⟩
    · obtain ⟨row, -, rfl⟩ := List.mem_map.mp hc
      exact fun _ => rfl
    · apply Simulation.Scene.refuses
      rw [hstate]
      exact hingests.refuses hs hr
  · simp only [ingest, Creator.ofRow_rebind? h]

/-! A statement with a value and a setting of its own. -/

def Statement.insert : Statement :=
  .prepared ⟨"INSERT INTO t (k) VALUES (?)", { idempotent := true }⟩ [.int 0]

/-- It was executed before and after its options and the state changed. -/
def Deployment.inserting : Deployment String Nat :=
  .run ⟨Template.tracing.ingest .tracing .logged .insert [[.int 1], [.int 2]], "x", .tracing⟩
    [.execute .caller, .outside fun _ => "y", .change (.set (.timestamp 3)), .execute .callback]

/-- The first row is answered and the second one fails. -/
theorem ingest_binds_rows_insert :
    Deployment.inserting.operation.Submits "y"
        [.prepared ⟨"INSERT INTO t (k) VALUES (?)",
            { tracing := true, idempotent := true, timestamp := some 3 }⟩ [.int 1],
          .prepared ⟨"INSERT INTO t (k) VALUES (?)",
            { tracing := true, idempotent := true, timestamp := some 3 }⟩ [.int 2]] "y" ∧
      (∃ s, (Deployment.inserting.operation.submit .caller "y").1 = .ok s ∧
        ∀ env : Environment Nat, env.outcome = Environment.mixedOutcome →
          ∃ b : BatchResult Nat, b.slots.length = 2 ∧ b.slots[0]? = some (.ok 7) ∧
            b.slots[1]? = some (.failed
              (.dataAccess (.connectionFailure Backend.Failure.emptyPlan.message))) ∧
            s.Gives env (.ok (.batch b))) ∧
      (Template.tracing.ingest .tracing .logged .insert [[.int 1], [.int 2]] :
        Operation String Nat).toStatement "x" =
          (.error (.usage (.notFoldable 0 .prepared)), "x") ∧
      (Template.tracing.ingest .tracing .logged (.batch .logged [] {} []) [[.int 1]] :
        Operation String Nat).Refuses "x"
          ⟨"a batch cannot be bound to a row of values"⟩ "x" := by
  obtain ⟨hinsert, -⟩ :=
    Template.tracing.ingest_binds_rows (ρ := Nat) .tracing .logged .insert [[.int 1], [.int 2]]
  obtain ⟨hbatch, -⟩ := Template.tracing.ingest_binds_rows (ρ := Nat) .tracing .logged
    (.batch .logged [] {} []) [[.int 1]]
  obtain ⟨bound, heach, -⟩ := (hinsert "x" [.execute .caller, .outside fun _ => "y",
    .change (.set (.timestamp 3)), .execute .callback]).ingests.binds nofun
  obtain ⟨s, hs, hbound, -⟩ := heach.submits .caller
  cases hs
  cases hbound
  refine ⟨heach.submits, ⟨_, rfl, fun env henv => ?_⟩,
    (hinsert "x" []).ingests.prepared rfl nofun, (hbatch "x" []).ingests.refuses rfl nofun⟩
  obtain ⟨b, hlength, hslots, hgives, -⟩ := heach.gives .caller _ rfl env
  have hanswered := hslots 0 (by decide)
  have hfailed := hslots 1 (by decide)
  rw [henv] at hanswered hfailed
  exact ⟨b, hlength, hanswered, hfailed, hgives⟩

end CqlOperations
