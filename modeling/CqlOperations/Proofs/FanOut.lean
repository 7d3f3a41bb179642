import CqlOperations.Proofs.Overlay
import CqlOperations.Proofs.Stack

/-! The requests of a batch: each runs on its own, and what they come to is joined once all of them
are over. -/
namespace CqlOperations

variable {σ ρ : Type}

namespace Execution

theorem filterMap_report?_proceed (x : Execution ρ) (output : Output ρ)
    (processors : List (Processor ρ)) :
    (x.proceed output processors).2.filterMap Action.report? = [] := by
  cases processors with
  | nil =>
    unfold proceed finish
    cases x.path <;> rfl
  | cons processor rest => rfl

theorem filterMap_report?_reports (rs : List Report) :
    (reports rs : List (Action ρ)).filterMap Action.report? = rs := by
  unfold reports
  rw [List.filterMap_map]
  exact List.filterMap_some

/-- A batch whose first failure is `error` notifies the level above its processors of it. -/
theorem gathered_of_firstFailed (x : Execution ρ) (processors : List (Processor ρ))
    {b : BatchResult ρ} {error : OperationError} (hb : b.FirstFailed error) :
    (x.gathered processors (.ok (.batch b))).1.notifier =
        (x.notifier.notify error processors.length).1 ∧
      (x.gathered processors (.ok (.batch b))).2.filterMap Action.report? =
        (x.notifier.notify error processors.length).2 := by
  have hf : (Output.batch b).failure? = some error := BatchResult.firstFailure?_eq_some.mpr hb
  simp only [gathered, hf, proceed_notifier, List.filterMap_append, filterMap_report?_reports,
    filterMap_report?_proceed, List.append_nil, and_self]

theorem gathered_of_none_failed (x : Execution ρ) (processors : List (Processor ρ))
    {b : BatchResult ρ} (hb : ∀ error, ¬ b.FirstFailed error) :
    (x.gathered processors (.ok (.batch b))).1.notifier = x.notifier ∧
      (x.gathered processors (.ok (.batch b))).2.filterMap Action.report? = [] := by
  have hf : (Output.batch b).failure? = none := BatchResult.firstFailure?_eq_none hb
  simp only [gathered, hf, proceed_notifier, List.filterMap_append, filterMap_report?_reports,
    filterMap_report?_proceed, List.append_nil, and_self]

end Execution

/-- What the requests of a batch do together at any time, if they come to `b` in the end. -/
structure Joins (o : Operation σ ρ) (env : Environment ρ) (s : Submission ρ) (b : BatchResult ρ)
    (c : Course ρ) : Prop where
  /-- A request sends its own statement at most once, and none if it was cancelled before. -/
  sent : ∀ (i : Nat) (statement : Statement) (p : Progress), s.statements[i]? = some statement →
    c.requests[i]? = some p → p.Allows (env.outcome i) statement (c.received i)
  others : ∀ i, s.statements.length ≤ i → c.received i = []
  /-- It waits for no other one. -/
  free : ∀ (i : Nat) (statement : Statement), s.statements[i]? = some statement →
    c.requests[i]? = some .spawned → (c.step env (.send i)).received i = [statement]
  waits : c.execution.stage.isGathering = true →
    c.execution.notifier = .ofLevels o.options.handler o.processors.length ∧ c.handed = [] ∧
      (¬ c.AllEnded → c.execution.poll = (c.execution, []))
  joins : c.execution.stage.isGathering = true → c.AllEnded →
    c.execution.poll = c.execution.gathered o.processors (.ok (.batch b))
  /-- The join notifies the level that the batch was submitted with, of the first failure. -/
  notifies : c.execution.stage.isGathering = true → c.AllEnded → ∀ error, b.FirstFailed error →
    c.execution.poll.1.notifier = (c.execution.notifier.notify error o.processors.length).1 ∧
      c.execution.poll.2.filterMap Action.report? =
        (c.execution.notifier.notify error o.processors.length).2
  silent : c.execution.stage.isGathering = true → c.AllEnded → (∀ error, ¬ b.FirstFailed error) →
    c.execution.poll.1.notifier = c.execution.notifier ∧
      c.execution.poll.2.filterMap Action.report? = []
  joined : c.execution.stage.isGathering = false →
    c.AllEnded ∧ ∀ moves, (c.run env moves).execution.stage.isGathering = false

theorem Creator.length_createAll {creators : List (Creator σ)} {state after : σ}
    {created : List Statement} (h : createAll creators state = (.ok created, after)) :
    created.length = creators.length := by
  induction creators generalizing state created with
  | nil =>
    cases h
    rfl
  | cons creator rest ih =>
    simp only [createAll] at h
    split at h
    next => cases h
    next statement middle _ =>
      split at h
      next => cases h
      next statements last hr =>
        cases h
        rw [List.length_cons, List.length_cons, ih hr]

/-- No batch comes from a request on the task of the execution. -/
theorem Gathers.ne_batch {t : Translator} {outcome : Nat → Resolution ρ}
    {gathered : Outcome (Result ρ)} {requests : List Progress}
    (h : Gathers t outcome gathered requests (.single none)) (b : BatchResult ρ) :
    gathered ≠ .returned (.ok (.batch b)) := by
  intro he
  cases h with
  | awaited hp hg =>
    rw [he] at hg
    cases ho : outcome 0 <;> simp [ho, Resolution.alone?] at hg

namespace Operation.IsStack

variable {o : Operation σ ρ} {env : Environment ρ} {path : Path} {state : σ} {s : Submission ρ}
  {b : BatchResult ρ}

private theorem joins_of_onTrack {c : Course ρ} (hl : c.Logged env s.statements)
    (hn : s.execution.notifier = .ofLevels o.options.handler o.processors.length)
    (ht : Course.OnTrack env s.execution o.processors (.returned (.ok (.batch b))) c) :
    Joins o env s b c := by
  have hgathering : c.execution.stage.isGathering = true →
      c.execution.notifier = .ofLevels o.options.handler o.processors.length ∧ c.handed = [] ∧
        (¬ c.AllEnded → c.execution.poll = (c.execution, [])) ∧
        (c.AllEnded → c.execution.poll = c.execution.gathered o.processors (.ok (.batch b))) := by
    intro hx
    obtain ⟨g, rest, hst⟩ := Stage.eq_gathering hx
    obtain ⟨hexec, hg, hh⟩ := ht.of_gathering hst
    have hst : c.execution.stage = .gathering g o.processors := by rw [hexec]
    refine ⟨by rw [hexec, hn], hh, fun hnot => ?_, fun hover => ?_⟩
    · cases hr : g.result? with
      | none => exact Execution.poll_gathering_none hst hr
      | some r => exact absurd (hg.of_result? hr).2 hnot
    · obtain ⟨r, hr⟩ := hg.result?_of_over hover
      cases (hg.of_result? hr).1
      exact Execution.poll_gathering hst hr
  have hawaits : c.execution.awaitsRequest = false := by
    unfold Execution.awaitsRequest
    split
    next processors hst => exact absurd rfl ((ht.of_gathering hst).2.1.ne_batch b)
    next => rfl
  refine
    { sent := hl.received
      others := hl.others
      free := ?_
      waits := fun hx => ⟨(hgathering hx).1, (hgathering hx).2.1, (hgathering hx).2.2.1⟩
      joins := fun hx hover => (hgathering hx).2.2.2 hover
      notifies := ?_
      silent := ?_
      joined := ?_ }
  · intro i statement hst hp
    obtain ⟨hi, -⟩ := List.getElem?_eq_some_iff.mp hp
    have hc : c.step env (.send i) = { c with
        requests := c.requests.set i .sent
        sent := c.sent ++ [(i, statement)] } := by
      simp only [Course.step, hawaits, Course.send, hp, hl.statements, hst]
      rfl
    have hlogged := hl.step (.send i)
    refine hlogged.received i statement .sent hst ?_
    rw [hc]
    exact List.getElem?_set_self hi
  · intro hx hover error he
    rw [(hgathering hx).2.2.2 hover]
    exact c.execution.gathered_of_firstFailed o.processors he
  · intro hx hover he
    rw [(hgathering hx).2.2.2 hover]
    exact c.execution.gathered_of_none_failed o.processors he
  · intro hx
    exact ⟨ht.allEnded hx, Course.run_execution (P := fun x => x.stage.isGathering = false)
      (fun _ signal h => Execution.isGathering_handle h signal) env hx⟩

/-- The fan-out of a batch, also of one under processors. Its statements are created, each gets a
request of its own, and their results are joined by position in a batch that the order in which the
requests end has no part in. -/
theorem fanOut_joins (h : o.IsStack) {type : BatchType} {creators : List (Creator σ)}
    (hb : o.base = .fanOut type creators) {after : σ} {created : List Statement}
    (hc : Creator.createAll creators state = (.ok created, after)) (path : Path)
    (outcome : Nat → Resolution ρ) :
    ∃ (s : Submission ρ) (b : BatchResult ρ),
      o.submit path state = (.ok s, [], after) ∧
      created.length = creators.length ∧
      List.Forall₂ (fun c t => c.Overlaid o.options t) created s.statements ∧
      (Course.start s).requests = List.replicate creators.length .spawned ∧
      (creators = [] → s.execution.stage = .gathering (.known (.ok (.batch ⟨[]⟩))) o.processors) ∧
      (creators = [] → o.layers = [] → s.handle = .ready (.ok (.batch ⟨[]⟩))) ∧
      b.slots.length = creators.length ∧
      (∀ i < creators.length, b.slots[i]? = some (match outcome i with
        | .answered reply => .ok reply
        | .failed failure => .failed (o.translator.translateFailure failure)
        | .panicked message => .failed (.panicked message)
        | .cancelled => .absent)) ∧
      ∀ env : Environment ρ, env.outcome = outcome →
        (∀ moves, Joins o env s b ((Course.start s).run env moves)) ∧
          s.LeadsTo env fun c => c.AllEnded ∧ c.execution.stage.isGathering = false ∧
            (o.layers = [] → c.execution.stage = .ended (.ok (.batch b))) := by
  have hl := Creator.length_createAll hc
  have hstatements : o.createStatements state =
      (.ok (created.map (Statement.apply o.options)), after) := by
    simp only [createStatements, hb, hc, Except.map]
  have hsubmit := h.submit_eq path state
  rw [hstatements] at hsubmit
  have hnil : o.layers = [] → o.processors = [] := by
    intro hlayers
    simp only [processors, hlayers, List.filterMap_nil]
  have hempty : creators = [] →
      (o.submission path (created.map (Statement.apply o.options))).execution.stage =
        .gathering (.known (.ok (.batch ⟨[]⟩))) o.processors := by
    intro hcreators
    rw [hcreators] at hl
    simp only [submission, gathering, hb, List.eq_nil_of_length_eq_zero hl, List.map_nil,
      List.isEmpty_nil, if_true]
  refine ⟨_, .ofOutcomes o.translator outcome creators.length, hsubmit, hl,
    Statement.forall₂_overlaid_iff.mpr rfl, ?_, hempty, ?_, BatchResult.size_ofOutcomes ..,
    fun i hi => ?_, fun env ho => ?_⟩
  · rw [List.eq_replicate_iff]
    refine ⟨by simp only [Course.start, submission, List.length_map, hl], fun p hp => ?_⟩
    obtain ⟨-, -, rfl⟩ := List.mem_map.mp hp
    rfl
  · intro hcreators hlayers
    have hx := hempty hcreators
    rw [hnil hlayers] at hx
    simp only [Submission.handle, Pending.ofExecution, Execution.known?, hx]
  · rw [BatchResult.getElem?_ofOutcomes _ _ hi]
    cases outcome i <;> rfl
  · subst ho
    have hs : (o.submit path state).1 =
        .ok (o.submission path (created.map (Statement.apply o.options))) := by rw [hsubmit]
    have hg : o.base.gathered? o.translator env.outcome
        (o.submission path (created.map (Statement.apply o.options))).statements.length =
          some (.returned (.ok (.batch (.ofOutcomes o.translator env.outcome
            creators.length)))) := by
      simp only [hb, Base.gathered?, submission, List.length_map, hl]
    refine ⟨fun moves => joins_of_onTrack ((Course.Logged.start env _).run moves) rfl
      (h.onTrack hs hg moves), (h.leadsTo_ending hs hg).mono fun c hcomp => ?_⟩
    obtain ⟨hover, hx⟩ := hcomp
    refine ⟨hover, ?_, fun hlayers => ?_⟩
    · rw [hx, Stage.isGathering_ofEnding]
    · rw [hnil hlayers] at hx
      exact hx

end Operation.IsStack

/-- Four requests that end in the four ways there are. -/
def Environment.mixedOutcome : Nat → Resolution Nat
  | 0 => .answered 7
  | 1 => .failed .emptyPlan
  | 2 => .panicked "boom"
  | _ => .cancelled

def Operation.quartet : Operation Unit Nat :=
  { pair with base := .fanOut .unlogged (List.replicate 4 (.constant (.ofText "statement"))) }

theorem Operation.isStack_quartet : quartet.IsStack where
  sends _ _ h := by simp [quartet] at h
  transforms _ hl := absurd hl List.not_mem_nil

theorem fanOut_joins_quartet :
    ∃ (s : Submission Nat) (b : BatchResult Nat),
      Operation.quartet.submit .caller () = (.ok s, [], ()) ∧ s.statements.length = 4 ∧
      b.slots[0]? = some (.ok 7) ∧
      b.slots[1]? = some (.failed (Translator.standard.translateFailure .emptyPlan)) ∧
      b.slots[2]? = some (.failed (.panicked "boom")) ∧ b.slots[3]? = some .absent ∧
      ∀ env : Environment Nat, env.outcome = Environment.mixedOutcome →
        ∀ moves, Joins Operation.quartet env s b ((Course.start s).run env moves) := by
  have hc : Creator.createAll (List.replicate 4 (.constant (.ofText "statement"))) () =
      (.ok (List.replicate 4 (.ofText "statement")), ()) := rfl
  obtain ⟨s, b, hs, -, hst, -, -, -, -, hslots, hall⟩ :=
    Operation.isStack_quartet.fanOut_joins rfl hc .caller Environment.mixedOutcome
  refine ⟨s, b, hs, hst.length_eq.symm, hslots 0 (by decide), hslots 1 (by decide),
    hslots 2 (by decide), hslots 3 (by decide), fun env ho => (hall env ho).1⟩

end CqlOperations
