import CqlOperations.Proofs.Course.Reaches
import CqlOperations.Proofs.Handover

/-! The calls of the failure handler of one execution, whatever the executor does with its tasks: at
most one at any time, and once the execution is over those that every course of it comes to. -/
namespace CqlOperations

variable {σ ρ : Type}

theorem Environment.taken_sublist (env : Environment ρ) (i : Nat) (tasks : List (Action ρ)) :
    (env.taken i tasks).Sublist tasks := by
  induction tasks generalizing i with
  | nil => exact .slnil
  | cons task rest ih =>
    rw [taken]
    split
    next => exact (ih (i + 1)).cons task
    next => exact (ih (i + 1)).cons_cons task

namespace Account

/-- The tasks of processors are no calls. -/
theorem reports_processing (d : Nat → Discipline) (i : Nat) (processors : List (Processor ρ))
    (output : Output ρ) : (processing d i processors output).reports = [] := by
  induction processors generalizing i output with
  | nil => rfl
  | cons p rest ih =>
    cases he : p.ending (d i) output with
    | panicked message => rw [processing_cons_stop he nofun]; rfl
    | returned r =>
      cases r with
      | error error => rw [processing_cons_stop he nofun]; rfl
      | ok made =>
        rw [processing_cons_ok he]
        exact ih (i + 1) made

theorem reports_calls (handler : Option Handler) (failure? : Option OperationError) :
    (Action.calls handler failure? : List (Action ρ)).filterMap Action.report? =
      Report.calls handler failure? := by
  rw [Action.calls, List.filterMap_map]
  exact List.filterMap_some

/-- A delivery is none either. -/
theorem reports_closing (path : Path) (handler : Option Handler)
    (failure? : Option OperationError) (r : Result ρ) :
    (Action.closing path handler failure? r).filterMap Action.report? =
      Report.calls handler (match r with | .error error => some error | .ok _ => failure?) := by
  cases r with
  | error error => exact reports_calls handler (some error)
  | ok made =>
    simp only [Action.closing, List.filterMap_append, reports_calls]
    cases path <;> exact List.append_nil _

/-- The call for a batch under processors is for what they end in, or else for its own failure. -/
theorem reports_ofGathered_ok (d : Nat → Discipline) (path : Path) (handler : Option Handler)
    (processors : List (Processor ρ)) (output : Output ρ) :
    (ofGathered d path handler processors (.returned (.ok output))).reports =
      match (processing d 0 processors output).ending with
      | .returned r => Report.calls handler (blame output r)
      | .panicked _ => [] := by
  have hp := reports_processing d 0 processors output
  unfold reports at hp
  simp only [reports, ofGathered, List.filterMap_append, hp, List.nil_append]
  cases (processing d 0 processors output).ending with
  | panicked message => rfl
  | returned r =>
    rw [closing, reports_closing]
    cases r <;> rfl

theorem length_reports_le (d : Nat → Discipline) (path : Path) (handler : Option Handler)
    (processors : List (Processor ρ)) (gathered : Outcome (Result ρ)) :
    (ofGathered d path handler processors gathered).reports.length ≤ 1 := by
  have hcalls := Report.length_calls_le handler
  cases gathered with
  | panicked message => exact Nat.zero_le 1
  | returned first =>
    cases first with
    | error error =>
      cases path with
      | caller => exact Nat.zero_le 1
      | callback =>
        simp only [reports, ofGathered, Action.failing, reports_calls]
        exact hcalls _
    | ok output =>
      rw [reports_ofGathered_ok]
      split
      next => exact hcalls _
      next => exact Nat.zero_le 1

end Account

namespace Course

variable {env : Environment ρ} {x₀ : Execution ρ} {processors : List (Processor ρ)}
  {gathered : Outcome (Result ρ)} {c : Course ρ}

/-- Nothing is left to do for the execution. -/
structure IsOver (c : Course ρ) : Prop where
  result : ∃ r, c.execution.result? = some r
  kept : c.kept = []

theorem OnTrack.length_reports_le (h : OnTrack env x₀ processors gathered c)
    (ha : c.Accounted env) : c.reports.length ≤ 1 := by
  have hran : c.reports.length ≤ ((c.ran ++ c.kept).filterMap Action.report?).length := by
    rw [List.filterMap_append, List.length_append]
    exact Nat.le_add_right _ _
  have htaken := (ha.filterMap Action.report?).length_eq
  have hhanded := (env.taken_sublist 0 c.handed).filterMap Action.report?
  have htasks := h.handed_isPrefix.sublist.filterMap Action.report?
  calc
    c.reports.length ≤ ((c.ran ++ c.kept).filterMap Action.report?).length := hran
    _ = ((env.taken 0 c.handed).filterMap Action.report?).length := htaken
    _ ≤ (c.handed.filterMap Action.report?).length := hhanded.length_le
    _ ≤ (account env x₀ processors gathered).reports.length := htasks.length_le
    _ ≤ 1 := Account.length_reports_le _ _ _ _ _

/-- What is left of the calls of the account without those that are dropped. -/
theorem OnTrack.reports_of_isOver (h : OnTrack env x₀ processors gathered c)
    (ha : c.Accounted env) (ho : c.IsOver) :
    c.reports =
      (env.taken 0 (account env x₀ processors gathered).tasks).filterMap Action.report? := by
  obtain ⟨r, hr⟩ := ho.result
  obtain ⟨-, -, hh, -⟩ := h.of_result? hr
  have hp := ha.filterMap Action.report?
  rw [ho.kept, List.append_nil, hh] at hp
  refine eq_of_perm hp ?_
  rw [← hp.length_eq]
  exact h.length_reports_le ha

end Course

/-! A single request that is cancelled alone is never answered, and its execution waits for good. -/

namespace Course

variable {env : Environment ρ} {c : Course ρ}

/-- An execution that awaits its only request and has done nothing yet. -/
structure Stalled (c : Course ρ) : Prop where
  awaits : c.execution.awaitsRequest = true
  length : c.requests.length = 1
  kept : c.kept = []
  ran : c.ran = []

namespace Stalled

theorem send (h : c.Stalled) (position : Nat) : (c.send position).Stalled := by
  unfold Course.send
  split
  next => exact ⟨h.awaits, List.length_set.trans h.length, h.kept, h.ran⟩
  next => exact h

theorem step (h : c.Stalled) (ho : env.outcome 0 = .cancelled) (move : Move) :
    (c.step env move).Stalled := by
  cases move with
  | poll =>
    rw [Course.step, poll_of_awaitsRequest env h.awaits]
    exact h.send 0
  | send position =>
    rw [Course.step, if_pos h.awaits]
    exact h
  | resolve position =>
    rw [Course.step]
    rcases resolve_eq_or_finish env c position with hr | ⟨p, hp, hr⟩
    · rw [hr]
      exact h
    · have hi := (List.getElem?_eq_some_iff.mp hp).1
      obtain rfl : position = 0 := by have := h.length; omega
      have hx : c.execution.resolve 0 .cancelled = c.execution := by
        obtain ⟨processors, hs⟩ := Execution.stage_of_awaitsRequest h.awaits
        simp only [Execution.resolve, hs]
      rw [hr, ho]
      exact
        { awaits := (congrArg Execution.awaitsRequest hx).trans h.awaits
          length := List.length_set.trans h.length
          kept := h.kept
          ran := h.ran }
  | run index =>
    rw [Course.step, h.kept]
    exact h

theorem run (h : c.Stalled) (ho : env.outcome 0 = .cancelled) (moves : List Move) :
    (c.run env moves).Stalled := by
  induction moves generalizing c with
  | nil => exact h
  | cons move rest ih => exact ih (h.step ho move)

theorem reports (h : c.Stalled) : c.reports = [] := by
  rw [Course.reports, h.ran, List.filterMap_nil]

theorem result? (h : c.Stalled) : c.execution.result? = none := by
  obtain ⟨processors, hs⟩ := Execution.stage_of_awaitsRequest h.awaits
  simp only [Execution.result?, hs]

end Stalled
end Course

namespace Operation.IsStack

variable {o : Operation σ ρ} {path : Path} {state : σ} {s : Submission ρ}

/-- The requests of a stack come to something, unless its only one is cancelled alone. -/
theorem gathered_or_stalled (h : o.IsStack) (hs : (o.submit path state).1 = .ok s)
    (env : Environment ρ) :
    (∃ gathered,
        o.base.gathered? o.translator env.outcome s.statements.length = some gathered) ∨
      ∀ moves, ((Course.start s).run env moves).Stalled := by
  by_cases hc : ∃ creator, o.base = .single creator ∧ env.outcome 0 = .cancelled
  · obtain ⟨creator, hb, ho⟩ := hc
    obtain ⟨statements, hst, rfl⟩ := h.submit_ok hs
    have hone := length_of_createStatements_single hb hst
    have hstart : (Course.start (o.submission path statements)).Stalled :=
      { awaits := by
          simp only [Course.start, submission, gathering, hb, Execution.awaitsRequest]
        length := List.length_map _ |>.trans hone
        kept := rfl
        ran := rfl }
    exact .inr (hstart.run ho)
  · exact .inl (h.exists_gathered (fun creator hb ho => hc ⟨creator, hb, ho⟩) _)

theorem length_reports_run_le (h : o.IsStack) (hs : (o.submit path state).1 = .ok s)
    (env : Environment ρ) (moves : List Move) :
    ((Course.start s).run env moves).reports.length ≤ 1 := by
  rcases h.gathered_or_stalled hs env with ⟨gathered, hg⟩ | hstalled
  · exact (h.onTrack hs hg moves).length_reports_le ((Course.Accounted.start env s).run moves)
  · rw [(hstalled moves).reports]
    exact Nat.zero_le 1

variable {env : Environment ρ} {moves : List Move}

/-- What an execution that is over has come to: all its requests have ended. -/
theorem exists_gathered_of_isOver (h : o.IsStack) (hs : (o.submit path state).1 = .ok s)
    (ho : ((Course.start s).run env moves).IsOver) :
    ((Course.start s).run env moves).AllEnded ∧
      ∃ gathered,
        o.base.gathered? o.translator env.outcome s.statements.length = some gathered := by
  obtain ⟨r, hr⟩ := ho.result
  rcases h.gathered_or_stalled hs env with ⟨gathered, hg⟩ | hstalled
  · exact ⟨((h.onTrack hs hg moves).of_result? hr).1, gathered, hg⟩
  · rw [(hstalled moves).result?] at hr
    cases hr

/-- An execution that is over has had the calls that it comes to under every schedule. -/
theorem leadsTo_reports (h : o.IsStack) (hs : (o.submit path state).1 = .ok s)
    (ho : ((Course.start s).run env moves).IsOver) :
    s.LeadsTo env fun c => c.reports = ((Course.start s).run env moves).reports where
  settles schedule hf := hf.exists_settled
  holds other hset := by
    obtain ⟨-, gathered, hg⟩ := h.exists_gathered_of_isOver hs ho
    have haccounted := Course.Accounted.start env s
    have ht := h.onTrack hs hg other
    have hl := (Course.Logged.start env s).run other
    obtain ⟨-, hx⟩ := ht.of_settled hset (by rw [hl.length, hl.statements])
    rw [ht.reports_of_isOver (haccounted.run other) ⟨Execution.exists_result? hx, hset.kept⟩,
      (h.onTrack hs hg moves).reports_of_isOver (haccounted.run moves) ho]

end Operation.IsStack
end CqlOperations
