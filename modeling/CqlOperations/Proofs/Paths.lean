import CqlOperations.Proofs.Pending
import CqlOperations.Proofs.Stack
import CqlOperations.Simulation.Scene

/-! The ways to execute an operation agree: who waits for the result at once, later or for a limited
time gets the same, and so do the callback and the failure handler in its place. -/
namespace CqlOperations

variable {σ ρ : Type}

/-- What an account says of either path does not depend on what the executor does with the tasks,
as long as it runs them. -/
theorem Account.exists_verdict {processors : List (Processor ρ)}
    (hp : ∀ p ∈ processors, p.Returns) (handler : Option Handler) (first : Result ρ) :
    ∃ (r : Result ρ) (calls : List Report), calls.length ≤ 1 ∧
      ∀ (d : Nat → Discipline) (path : Path), (∀ i, d i ≠ .drops) →
        (ofGathered d path handler processors (.returned first)).ending = .returned r ∧
        (ofGathered d path handler processors (.returned first)).deliveries =
          deliveriesOf path r ∧
        (ofGathered d path handler processors (.returned first)).reports =
          match path, r with
          | .callback, .error error => Report.calls handler (some error)
          | _, _ => calls := by
  cases first with
  | error error =>
    refine ⟨.error error, [], Nat.zero_le 1, fun d path hd => ⟨rfl, ?_⟩⟩
    obtain ⟨hrep, hdel, -⟩ := tallies_ofGathered_error path handler d processors error
    rw [hrep, hdel]
    cases path <;> exact ⟨rfl, rfl⟩
  | ok output =>
    obtain ⟨r, ht⟩ := Processor.through_returns hp output
    refine ⟨r, Report.calls handler (blame output r), Report.length_calls_le _ _,
      fun d path hd => ?_⟩
    have he := ending_processing_returned hd 0 ht
    obtain ⟨hrep, hdel, -⟩ := tallies_ofGathered_ok path handler hd he
    refine ⟨he, hdel, ?_⟩
    rw [hrep]
    cases path <;> cases r <;> rfl

/-- A caller of `s` gets `r` and the failure handler is called as in `calls`; the callback of `s'`
gets the same result, or the handler in its place. -/
structure PathsAgree (env : Environment ρ) (s s' : Submission ρ) (handler : Option Handler)
    (r : Result ρ) (calls : List Report) : Prop where
  called : s.LeadsTo env fun c => s.Yields c r ∧ c.deliveries = [] ∧ c.reports = calls
  /-- A wait is over when the result is there or its time is up. -/
  waited : ∀ (limit : Duration) (moves more : List Move),
    (s.handle.waitWithin limit
        (fun _ => ((Course.start s).run env moves).execution.result?)
        (fun _ => ((Course.start s).run env (moves ++ more)).execution.result?)).2 =
      if s.handle.isFinished
        (fun _ => ((Course.start s).run env (moves ++ more)).execution.result?)
      then r else .error (.waitTimeout limit)
  delivered : s'.LeadsTo env fun c =>
    match r with
    | .ok output => c.deliveries = [output] ∧ c.reports = calls
    | .error error => c.deliveries = [] ∧ c.reports = Report.calls handler (some error)

namespace Operation.IsStack

variable {o : Operation σ ρ} {env : Environment ρ} {path : Path} {state : σ} {s : Submission ρ}

/-- Waiting for a limited time gives the result of the account or none. -/
theorem waitWithin_eq (h : o.IsStack) (hs : (o.submit path state).1 = .ok s)
    {gathered : Outcome (Result ρ)}
    (hg : o.base.gathered? o.translator env.outcome s.statements.length = some gathered)
    {r : Result ρ}
    (he : (Account.ofGathered env.discipline path o.options.handler o.processors
      gathered).ending = .returned r)
    (limit : Duration) (moves more : List Move) :
    (s.handle.waitWithin limit
        (fun _ => ((Course.start s).run env moves).execution.result?)
        (fun _ => ((Course.start s).run env (moves ++ more)).execution.result?)).2 =
      if s.handle.isFinished
        (fun _ => ((Course.start s).run env (moves ++ more)).execution.result?)
      then r else .error (.waitTimeout limit) := by
  unfold Submission.handle Pending.ofExecution
  cases hk : s.execution.known? with
  | some known =>
    obtain rfl := h.eq_of_known? hs hg hk he
    rfl
  | none =>
    have hstays : ∀ found, ((Course.start s).run env moves).execution.result? = some found →
        ((Course.start s).run env (moves ++ more)).execution.result? = some found := by
      intro found hf
      rw [Course.run_append]
      exact Course.run_result? env hf more
    rw [Pending.waitWithin_eq, Pending.wait_inFlight hstays]
    simp only [Pending.isFinished]
    cases hlate : ((Course.start s).run env (moves ++ more)).execution.result? with
    | none => rfl
    | some late =>
      obtain rfl := h.result?_eq hs hg he hlate
      rfl

/-- A stack of processors that return, over requests that are answered in some way and by an
executor that runs every task, comes to one result and one list of calls on every path, under every
schedule. If no statement could be created each path tells its caller so and does nothing else. -/
theorem paths_agree (h : o.IsStack) (hp : ∀ p ∈ o.processors, p.Returns)
    {outcome : Nat → Resolution ρ} (ha : Answers outcome) (state : σ) :
    match o.submit .caller state with
    | (.error error, actions, after) =>
      actions = [] ∧ o.submit .callback state = (.error error, [], after)
    | (.ok s, actions, after) =>
      actions = [] ∧ ∃ s' r calls, o.submit .callback state = (.ok s', [], after) ∧
        calls.length ≤ 1 ∧ ∀ env : Environment ρ, env.outcome = outcome → env.RunsAll →
          PathsAgree env s s' o.options.handler r calls := by
  cases hc : o.createStatements state with
  | mk created after =>
    have hcaller := h.submit_eq .caller state
    have hcallback := h.submit_eq .callback state
    rw [hc] at hcaller hcallback
    cases created with
    | error failure =>
      rw [hcaller]
      exact ⟨rfl, hcallback⟩
    | ok statements =>
      rw [hcaller]
      refine ⟨rfl, o.submission .callback statements, ?_⟩
      obtain ⟨first, hg⟩ := h.gathered?_of_answers ha statements.length
      obtain ⟨r, calls, hl, hv⟩ := Account.exists_verdict hp o.options.handler first
      refine ⟨r, calls, hcallback, hl, fun env ho hr => ?_⟩
      subst ho
      have hs : (o.submit .caller state).1 = .ok (o.submission .caller statements) := by
        rw [hcaller]
      have hs' : (o.submit .callback state).1 = .ok (o.submission .callback statements) := by
        rw [hcallback]
      obtain ⟨he, hdel, hrep⟩ := hv env.discipline .caller hr
      obtain ⟨-, hdel', hrep'⟩ := hv env.discipline .callback hr
      refine ⟨?_, h.waitWithin_eq hs hg he, ?_⟩
      · exact (h.leadsTo hr hs hg).mono fun c hcomp =>
          ⟨h.yields hs hg hcomp he, hcomp.deliveries.trans hdel, hcomp.reports.trans hrep⟩
      · refine (h.leadsTo hr hs' hg).mono fun c hcomp => ?_
        have hdeliveries := hcomp.deliveries.trans hdel'
        have hreports := hcomp.reports.trans hrep'
        cases r with
        | ok output => exact ⟨hdeliveries, hreports⟩
        | error error => exact ⟨hdeliveries, hreports⟩

end Operation.IsStack

theorem paths_agree_on_rejectedPair :
    ∃ s s' r calls, Operation.rejectedPair.submit .caller () = (.ok s, [], ()) ∧
      Operation.rejectedPair.submit .callback () = (.ok s', [], ()) ∧ calls.length ≤ 1 ∧
        PathsAgree .secondFails s s' (some ⟨"log"⟩) r calls := by
  obtain ⟨-, s', r, calls, hs', hl, hall⟩ := Operation.isStack_rejectedPair.paths_agree
    Operation.returns_rejectedPair Environment.answers_secondFails ()
  exact ⟨_, s', r, calls, rfl, hs', hl, hall .secondFails rfl Environment.runsAll_secondFails⟩

namespace Simulation

/-- A scene whose requests all get the same reply. -/
def Scene.replying : Scene Nat :=
  .setUp
    { treatment := fun _ _ => { ending := .answered 7 }
      prepare := fun _ => .returned (.ok ()) }

/-- A statement that cannot be created. -/
def refusing : Operation String Nat where
  translator := .standard
  runtime := .currentThread
  base := .single ⟨fun state => (.error ⟨"no statement"⟩, state)⟩
  options := { handler := some ⟨"log"⟩ }

/-- A creation failure is returned by the call on the callback path too; the handler is not told,
then or later. -/
theorem callback_of_refusing :
    (Scene.replying.execute refusing).2 = .error (.statementCreation ⟨"no statement"⟩) ∧
      (Scene.replying.callback refusing "done").2 =
        .error (.statementCreation ⟨"no statement"⟩) ∧
      (Scene.replying.callback refusing "done").1.world.settle.events ≠
        [.handler ⟨⟨"log"⟩, .statementCreation ⟨"no statement"⟩⟩] :=
  ⟨rfl, rfl, nofun⟩

end Simulation
end CqlOperations
