import CqlOperations.Proofs.Course.Complete

/-! Stacks of transforms over an operation that sends statements: how one is submitted, and where
its courses lead. -/
namespace CqlOperations

variable {σ ρ : Type}

/-- Each request gets a reply or a failure of the backend. -/
def Answers (outcome : Nat → Resolution ρ) : Prop :=
  ∀ i, (∃ reply, outcome i = .answered reply) ∨ ∃ failure, outcome i = .failed failure

namespace Operation

/-- Transforms, any number of them, over an operation that sends statements of its own. -/
structure IsStack (o : Operation σ ρ) : Prop where
  sends : ∀ statement result, o.base ≠ .known statement result
  transforms : ∀ layer ∈ o.layers, ∃ processor, layer = .transform processor

/-- The submission of a stack whose statements could be created. -/
def submission (o : Operation σ ρ) (path : Path) (statements : List Statement) :
    Submission ρ where
  execution :=
    { translator := o.translator
      path := path
      notifier := .ofLevels o.options.handler o.processors.length
      stage := .gathering (o.gathering statements) o.processors }
  statements := statements

theorem announce_transforms (gathering? : Option (Gathering ρ)) (notifier : Notifier)
    (level : Nat) {layers : List (Layer ρ)}
    (h : ∀ layer ∈ layers, ∃ processor, layer = .transform processor) :
    announce gathering? notifier level layers = (notifier, []) := by
  induction layers generalizing level with
  | nil => rfl
  | cons layer inner ih =>
    obtain ⟨processor, rfl⟩ := h layer List.mem_cons_self
    exact ih (level + 1) fun layer hl => h layer (List.mem_cons_of_mem _ hl)

/-- A single statement is created alone. -/
theorem length_of_createStatements_single {o : Operation σ ρ} {creator : Creator σ}
    (hb : o.base = .single creator) {state : σ} {statements : List Statement}
    (hc : (o.createStatements state).1 = .ok statements) : statements.length = 1 := by
  simp only [createStatements, hb, Creator.createAll] at hc
  split at hc
  next => cases hc
  next => cases hc; rfl

namespace IsStack

variable {o : Operation σ ρ}

theorem transform (h : o.IsStack) (processor : Processor ρ) :
    (o.transform processor).IsStack where
  sends := h.sends
  transforms layer hl := by
    rcases List.mem_append.mp hl with hl | hl
    · exact h.transforms layer hl
    · exact ⟨processor, List.mem_singleton.mp hl⟩

theorem submit_eq (h : o.IsStack) (path : Path) (state : σ) :
    o.submit path state =
      match o.createStatements state with
      | (.error error, after) => (.error (.statementCreation error), [], after)
      | (.ok statements, after) => (.ok (o.submission path statements), [], after) := by
  have ht : ∀ layer ∈ o.layers.reverse, ∃ processor, layer = .transform processor :=
    fun layer hl => h.transforms layer (List.mem_reverse.mp hl)
  unfold submit
  cases hc : o.createStatements state with
  | mk created after =>
    cases created with
    | error error => simp only [announce_transforms _ _ _ ht]
    | ok statements => simp only [announce_transforms _ _ _ ht, submission]

/-- A submission hands nothing to the executor, and a creator that fails is all there is. -/
theorem submit_actions (h : o.IsStack) (path : Path) (state : σ) :
    (o.submit path state).2.1 = [] := by
  rw [h.submit_eq]
  cases hc : o.createStatements state with
  | mk created after => cases created <;> rfl

theorem submit_ok (h : o.IsStack) {path : Path} {state : σ} {s : Submission ρ}
    (hs : (o.submit path state).1 = .ok s) :
    ∃ statements, (o.createStatements state).1 = .ok statements ∧
      s = o.submission path statements := by
  rw [h.submit_eq] at hs
  cases hc : o.createStatements state with
  | mk created after =>
    cases created with
    | error failure => simp [hc] at hs
    | ok statements =>
      simp only [hc, Except.ok.injEq] at hs
      exact ⟨statements, rfl, hs.symm⟩

/-- At the start nothing is gathered of what the requests come to. -/
theorem gathers (h : o.IsStack) {state : σ} {statements : List Statement}
    (hc : (o.createStatements state).1 = .ok statements) {outcome : Nat → Resolution ρ}
    {gathered : Outcome (Result ρ)}
    (hg : o.base.gathered? o.translator outcome statements.length = some gathered) :
    Gathers o.translator outcome gathered (statements.map fun _ => .spawned)
      (o.gathering statements) := by
  unfold gathering
  cases hb : o.base with
  | known statement result => exact absurd hb (h.sends statement result)
  | single creator =>
    obtain ⟨statement, rfl⟩ :=
      List.length_eq_one_iff.mp (length_of_createStatements_single hb hc)
    rw [hb] at hg
    exact .awaited (fun hp => nomatch hp) hg
  | fanOut type creators =>
    rw [hb] at hg
    cases hg
    cases statements with
    | nil => exact .known (.ok (.batch ⟨[]⟩))
    | cons statement rest =>
      have hl : (statement :: rest).length =
          ((statement :: rest).map fun _ => Progress.spawned).length := by simp
      rw [hl]
      refine .fanOut fun i => ?_
      simp only [List.getElem?_map, Option.map_map]
      rfl

/-- Requests that are answered come to a result. -/
theorem gathered?_of_answers (h : o.IsStack) {outcome : Nat → Resolution ρ}
    (ha : Answers outcome) (n : Nat) :
    ∃ first, o.base.gathered? o.translator outcome n = some (.returned first) := by
  cases hb : o.base with
  | known statement result => exact absurd hb (h.sends statement result)
  | fanOut type creators => exact ⟨_, rfl⟩
  | single creator =>
    rcases ha 0 with ⟨reply, hr⟩ | ⟨failure, hf⟩
    · exact ⟨.ok (.reply reply), by simp only [Base.gathered?, hr, Resolution.alone?]⟩
    · exact ⟨.error (o.translator.translateFailure failure), by
        simp only [Base.gathered?, hf, Resolution.alone?]⟩

end IsStack
end Operation

/-- Every fair schedule takes a submission to where nothing is left to happen, and `P` holds
wherever that is. -/
structure Submission.LeadsTo (s : Submission ρ) (env : Environment ρ) (P : Course ρ → Prop) :
    Prop where
  settles : ∀ schedule, (Course.start s).Fair env schedule →
    ∃ n, ((Course.start s).upTo env schedule n).Settled env
  holds : ∀ moves, ((Course.start s).run env moves).Settled env → P ((Course.start s).run env moves)

theorem Submission.LeadsTo.mono {s : Submission ρ} {env : Environment ρ} {P Q : Course ρ → Prop}
    (h : s.LeadsTo env P) (hPQ : ∀ c, P c → Q c) : s.LeadsTo env Q :=
  ⟨h.settles, fun moves hs => hPQ _ (h.holds moves hs)⟩

/-- The handle of a caller that leaves the submission to the runtime. -/
def Submission.handle (s : Submission ρ) : Pending Unit ρ :=
  .ofExecution s.execution ()

/-- The caller gets `r`, whether it polls the execution itself or waits for the handle. -/
structure Submission.Yields (s : Submission ρ) (c : Course ρ) (r : Result ρ) : Prop where
  polled : c.execution.stage = .ended r
  joined : (s.handle.poll fun _ => c.execution.result?).2 = some r

namespace Operation.IsStack

variable {o : Operation σ ρ} {env : Environment ρ} {path : Path} {state : σ} {s : Submission ρ}
  {gathered : Outcome (Result ρ)}

theorem onTrack (h : o.IsStack) (hs : (o.submit path state).1 = .ok s)
    (hg : o.base.gathered? o.translator env.outcome s.statements.length = some gathered)
    (moves : List Move) :
    Course.OnTrack env s.execution o.processors gathered ((Course.start s).run env moves) := by
  obtain ⟨statements, hc, rfl⟩ := h.submit_ok hs
  exact Course.OnTrack.run rfl (.gathering rfl (h.gathers hc hg) rfl rfl rfl) moves

theorem account_eq (h : o.IsStack) (hs : (o.submit path state).1 = .ok s) (env : Environment ρ)
    (gathered : Outcome (Result ρ)) :
    Course.account env s.execution o.processors gathered =
      .ofGathered env.discipline path o.options.handler o.processors gathered := by
  obtain ⟨statements, -, rfl⟩ := h.submit_ok hs
  rfl

/-- What the executor was handed at any time. -/
theorem handed_isPrefix (h : o.IsStack) (hs : (o.submit path state).1 = .ok s)
    (hg : o.base.gathered? o.translator env.outcome s.statements.length = some gathered)
    (moves : List Move) :
    ((Course.start s).run env moves).handed <+:
      (Account.ofGathered env.discipline path o.options.handler o.processors gathered).tasks := by
  rw [← h.account_eq hs env gathered]
  exact (h.onTrack hs hg moves).handed_isPrefix

/-- Where every course of a stack ends, whatever the executor does with the tasks. -/
theorem leadsTo_ending (h : o.IsStack) (hs : (o.submit path state).1 = .ok s)
    (hg : o.base.gathered? o.translator env.outcome s.statements.length = some gathered) :
    s.LeadsTo env fun c => c.AllEnded ∧ c.execution.stage =
      .ofEnding (Account.ofGathered env.discipline path o.options.handler o.processors
        gathered).ending where
  settles schedule hf := hf.exists_settled
  holds moves hset := by
    have ht := h.onTrack hs hg moves
    have hl := (Course.Logged.start env s).run moves
    obtain ⟨hover, hx⟩ := ht.of_settled hset (by rw [hl.length, hl.statements])
    rw [h.account_eq hs] at hx
    exact ⟨hover, hx⟩

/-- The account of a stack, completed in every course. -/
theorem leadsTo (h : o.IsStack) (hr : env.RunsAll) (hs : (o.submit path state).1 = .ok s)
    (hg : o.base.gathered? o.translator env.outcome s.statements.length = some gathered) :
    s.LeadsTo env fun c =>
      c.Completes (.ofGathered env.discipline path o.options.handler o.processors gathered) where
  settles schedule hf := hf.exists_settled
  holds moves hset := by
    have ht := h.onTrack hs hg moves
    have hl := (Course.Logged.start env s).run moves
    have htally := (Course.Tallied.start s).run hr moves
    have hc := ht.completes hset (by rw [hl.length, hl.statements]) hr htally
    rwa [h.account_eq hs] at hc

/-- Only what is gathered can be known without a task, and only if nothing is to work on it. -/
theorem of_known? (h : o.IsStack) (hs : (o.submit path state).1 = .ok s)
    (hg : o.base.gathered? o.translator env.outcome s.statements.length = some gathered)
    {r : Result ρ} (hk : s.execution.known? = some r) :
    o.processors = [] ∧ gathered = .returned r := by
  obtain ⟨statements, hc, rfl⟩ := h.submit_ok hs
  have hgathers := h.gathers hc hg
  unfold Execution.known? at hk
  split at hk
  next result hx =>
    cases hk
    simp only [submission, Stage.gathering.injEq] at hx
    rw [hx.1] at hgathers
    exact ⟨hx.2, (hgathers.of_result? rfl).1⟩
  next => cases hk

theorem eq_of_known? (h : o.IsStack) (hs : (o.submit path state).1 = .ok s)
    (hg : o.base.gathered? o.translator env.outcome s.statements.length = some gathered)
    {known : Result ρ} (hk : s.execution.known? = some known)
    {d : Nat → Discipline} {handler : Option Handler} {r : Result ρ}
    (he : (Account.ofGathered d path handler o.processors gathered).ending = .returned r) :
    known = r := by
  obtain ⟨hp, rfl⟩ := h.of_known? hs hg hk
  rw [hp] at he
  cases known with
  | error error => exact Outcome.returned.inj he
  | ok output => exact Outcome.returned.inj he

/-- A result found at any time is the one that the account ends in. -/
theorem result?_eq (h : o.IsStack) (hs : (o.submit path state).1 = .ok s)
    (hg : o.base.gathered? o.translator env.outcome s.statements.length = some gathered)
    {r found : Result ρ}
    (he : (Account.ofGathered env.discipline path o.options.handler o.processors gathered).ending =
      .returned r)
    {moves : List Move}
    (hf : ((Course.start s).run env moves).execution.result? = some found) : found = r := by
  obtain ⟨-, hx, -⟩ := (h.onTrack hs hg moves).of_result? hf
  rw [h.account_eq hs, he] at hx
  simp only [Execution.result?, hx, Stage.ofEnding, Option.some.injEq] at hf
  exact hf.symm

/-- An execution that ended in the result of its account is all that the caller needs. -/
theorem yields_of_ended (h : o.IsStack) (hs : (o.submit path state).1 = .ok s)
    (hg : o.base.gathered? o.translator env.outcome s.statements.length = some gathered)
    {d : Nat → Discipline} {handler : Option Handler} {r : Result ρ}
    (he : (Account.ofGathered d path handler o.processors gathered).ending = .returned r)
    {c : Course ρ} (hx : c.execution.stage = .ended r) : s.Yields c r := by
  refine ⟨hx, ?_⟩
  have hr : c.execution.result? = some r := by simp only [Execution.result?, hx]
  unfold Submission.handle Pending.ofExecution
  split
  next known hk => exact congrArg some (h.eq_of_known? hs hg hk he)
  next => simp only [Pending.poll, hr]

/-- Where the account ends in a result the caller gets it. -/
theorem yields (h : o.IsStack) (hs : (o.submit path state).1 = .ok s)
    (hg : o.base.gathered? o.translator env.outcome s.statements.length = some gathered)
    {d : Nat → Discipline} {handler : Option Handler} {c : Course ρ}
    (hc : c.Completes (.ofGathered d path handler o.processors gathered)) {r : Result ρ}
    (he : (Account.ofGathered d path handler o.processors gathered).ending = .returned r) :
    s.Yields c r := by
  refine h.yields_of_ended hs hg he ?_
  rw [hc.stage, he]
  rfl

end Operation.IsStack

/-! Two statements, the second of which fails, under a processor that keeps what it gets and one
that takes nothing; the first processor runs later. -/

def Processor.keeping : Processor ρ :=
  ⟨"keep", fun output => .returned (.ok output)⟩

def Processor.rejecting (error : OperationError) : Processor ρ :=
  ⟨"reject", fun _ => .returned (.error error)⟩

def Environment.secondFails : Environment Nat where
  outcome position := if position = 1 then .failed .emptyPlan else .answered position
  discipline handed := if handed = 0 then .keeps else .runs

def Operation.pair : Operation Unit Nat where
  translator := .standard
  runtime := .currentThread
  base := .fanOut .unlogged [.constant (.ofText "first"), .constant (.ofText "second")]
  options := { handler := some ⟨"log"⟩ }

/-- The pair under both processors. -/
def Operation.rejectedPair : Operation Unit Nat :=
  (pair.transform .keeping).transform (.rejecting .taskDropped)

theorem Operation.isStack_pair : pair.IsStack where
  sends _ _ h := by simp [pair] at h
  transforms _ hl := absurd hl List.not_mem_nil

theorem Operation.isStack_rejectedPair : rejectedPair.IsStack :=
  (isStack_pair.transform .keeping).transform (.rejecting .taskDropped)

theorem Operation.returns_rejectedPair : ∀ p ∈ rejectedPair.processors, p.Returns := by
  intro p hp
  rcases List.mem_cons.mp hp with rfl | hp
  · exact fun input => ⟨_, rfl⟩
  · rw [List.mem_singleton.mp hp]
    exact fun input => ⟨_, rfl⟩

theorem Environment.answers_secondFails : Answers secondFails.outcome := by
  intro i
  by_cases hi : i = 1
  · exact .inr ⟨.emptyPlan, by simp only [secondFails, hi, if_true]⟩
  · exact .inl ⟨i, by simp only [secondFails, hi, if_false]⟩

theorem Environment.runsAll_secondFails : secondFails.RunsAll := by
  intro i
  unfold secondFails
  dsimp only
  split <;> decide

end CqlOperations
