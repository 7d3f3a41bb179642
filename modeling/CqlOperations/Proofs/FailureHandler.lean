import CqlOperations.Proofs.Stack

/-! What reaches the failure handler of a stack, and when. -/
namespace CqlOperations

variable {σ ρ : Type}

/-- The law of the failure handler for a caller: what `first`, the result of the operation under
some processors, and the processors make of a whole course. -/
structure HandlerLaw (s : Submission ρ) (handler : Handler) (processors : List (Processor ρ))
    (first : Result ρ) (c : Course ρ) : Prop where
  /-- An error of the operation itself is the caller's alone. -/
  refused : ∀ error, first = .error error →
    s.Yields c (.error error) ∧ c.processes = [] ∧ c.reports = []
  /-- The error of the first processor that fails is reported and returned. -/
  stopped : ∀ output before p input, first = .ok output →
    Processor.Stops processors output before p input →
    ∃ error, p.run input = .returned (.error error) ∧ s.Yields c (.error error) ∧
      c.processes.map Prod.fst = before ++ [p] ∧ c.reports = [⟨handler, error⟩]
  passed : ∀ output made, first = .ok output →
    Processor.through processors output = .returned (.ok made) →
    s.Yields c (.ok made) ∧ c.processes.map Prod.fst = processors
  /-- Of the failures in a batch that passes, the one of lowest position is reported. -/
  failed : ∀ b made error, first = .ok (.batch b) →
    Processor.through processors (.batch b) = .returned (.ok made) → b.FirstFailed error →
    c.reports = [⟨handler, error⟩]
  silent : (∀ output before p input, first = .ok output →
      ¬ Processor.Stops processors output before p input) →
    (∀ b error, first = .ok (.batch b) → ¬ b.FirstFailed error) → c.reports = []

/-- What passes all processors is a batch with a failed slot or holds no failure. -/
theorem Output.failure?_eq_none {output : Output ρ}
    (h : ∀ b error, output = .batch b → ¬ b.FirstFailed error) : output.failure? = none := by
  cases output with
  | reply value => rfl
  | made datum => rfl
  | batch b => exact BatchResult.firstFailure?_eq_none fun error => h b error rfl

namespace Operation.IsStack

variable {o : Operation σ ρ} {env : Environment ρ} {state : σ} {s : Submission ρ}
  {handler : Handler} {first : Result ρ} {c : Course ρ}

/-- A course that comes to the end of its account obeys the law. -/
theorem handlerLaw_of_completes (h : o.IsStack)
    (hp : ∀ p ∈ o.processors, p.Returns) (hr : env.RunsAll)
    (hs : (o.submit .caller state).1 = .ok s)
    (hg : o.base.gathered? o.translator env.outcome s.statements.length = some (.returned first))
    (hc : c.Completes
      (.ofGathered env.discipline .caller (some handler) o.processors (.returned first))) :
    HandlerLaw s handler o.processors first c where
  refused error hf := by
    subst hf
    obtain ⟨hrep, -, hproc⟩ := Account.tallies_ofGathered_error .caller (some handler)
      env.discipline o.processors error
    exact ⟨h.yields hs hg hc rfl, hc.processes.trans hproc, hc.reports.trans hrep⟩
  stopped output before p input hf hst := by
    subst hf
    obtain ⟨error, hrun⟩ := hst.error_of_returns hp
    have he := (Account.ending_processing_stops hr 0 hst).trans
      (Processor.ending_of_returned (hr _) hrun)
    obtain ⟨hrep, -, hproc⟩ := Account.tallies_ofGathered_ok .caller (some handler) hr he
    refine ⟨error, hrun, h.yields hs hg hc he, ?_, hc.reports.trans hrep⟩
    rw [hc.processes, hproc, hst.map_fst_trail]
  passed output made hf ht := by
    subst hf
    have he := Account.ending_processing_ok hr 0 ht
    obtain ⟨-, -, hproc⟩ := Account.tallies_ofGathered_ok .caller (some handler) hr he
    refine ⟨h.yields hs hg hc he, ?_⟩
    rw [hc.processes, hproc, Processor.trail_of_through ht]
  failed b made error hf ht hb := by
    subst hf
    have he := Account.ending_processing_ok hr 0 ht
    obtain ⟨hrep, -⟩ := Account.tallies_ofGathered_ok .caller (some handler) hr he
    rw [hc.reports, hrep]
    simp only [Account.blame, Output.failure?, BatchResult.firstFailure?_eq_some.mpr hb]
    rfl
  silent hst hb := by
    cases first with
    | error error =>
      exact hc.reports.trans (Account.tallies_ofGathered_error _ _ _ _ error).1
    | ok output =>
      rcases Processor.through_cases o.processors output with
        ⟨made, ht⟩ | ⟨before, p, input, hstops⟩
      · have he := Account.ending_processing_ok hr 0 ht
        obtain ⟨hrep, -⟩ := Account.tallies_ofGathered_ok .caller (some handler) hr he
        have hnone := Output.failure?_eq_none fun b error ho => hb b error (congrArg Except.ok ho)
        rw [hc.reports, hrep]
        simp only [Account.blame, hnone, Report.calls_none]
      · exact absurd hstops (hst output before p input rfl)

/-- One execution of a stack of processors that return, over requests that are answered, by an
executor that runs every task: the handler hears of it as the law says, under every schedule. If no
statement could be created nothing happens at all. -/
theorem handler_law (h : o.IsStack) (hh : o.options.handler = some handler)
    (hp : ∀ p ∈ o.processors, p.Returns) (ha : Answers env.outcome) (hr : env.RunsAll)
    (state : σ) :
    (o.submit .caller state).2.1 = [] ∧ ∀ s, (o.submit .caller state).1 = .ok s → ∃ first,
      o.base.gathered? o.translator env.outcome s.statements.length = some (.returned first) ∧
        s.LeadsTo env (HandlerLaw s handler o.processors first) := by
  refine ⟨h.submit_actions .caller state, fun s hs => ?_⟩
  obtain ⟨first, hg⟩ := h.gathered?_of_answers ha s.statements.length
  have hl := h.leadsTo hr hs hg
  rw [hh] at hl
  exact ⟨first, hg, hl.mono fun c hc => h.handlerLaw_of_completes hp hr hs hg hc⟩

end Operation.IsStack

/-- The rejection is reported, and the failed slot is not. -/
theorem handler_law_of_rejected_pair :
    ∃ s, Operation.rejectedPair.submit .caller () = (.ok s, [], ()) ∧
      s.LeadsTo .secondFails fun c =>
        c.processes.map (fun step => step.1.label) = ["keep", "reject"] ∧
          c.reports = [⟨⟨"log"⟩, .taskDropped⟩] := by
  obtain ⟨-, hall⟩ := Operation.isStack_rejectedPair.handler_law rfl
    Operation.returns_rejectedPair Environment.answers_secondFails
    Environment.runsAll_secondFails ()
  obtain ⟨first, hg, hl⟩ := hall _ rfl
  cases hg
  refine ⟨_, rfl, hl.mono fun c hc => ?_⟩
  obtain ⟨error, hrun, -, hproc, hrep⟩ := hc.stopped _ [.keeping] (.rejecting .taskDropped) _
    rfl ⟨⟨[], rfl⟩, rfl, nofun⟩
  cases hrun
  refine ⟨?_, hrep⟩
  have hlabels := congrArg (List.map Processor.label) hproc
  rwa [List.map_map] at hlabels
end CqlOperations
