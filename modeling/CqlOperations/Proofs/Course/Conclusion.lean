import CqlOperations.Proofs.Course.OnTrack
import CqlOperations.Proofs.Course.Requests

/-! A course that is settled has come to the end of its account: every request is over, and of the
tasks handed over all that were not dropped have run. -/
namespace CqlOperations.Course

variable {ρ : Type} {env : Environment ρ} {c : Course ρ}

theorem Settled.kept (h : c.Settled env) : c.kept = [] := by
  cases hk : c.kept with
  | nil => rfl
  | cons task rest =>
    have hr := congrArg Course.kept (h (.run 0))
    simp only [step, hk, List.getElem?_cons_zero, runTask_kept, List.eraseIdx_cons_zero] at hr
    exact absurd hr.symm (List.cons_ne_self task rest)

theorem Settled.poll_eq (h : c.Settled env) (hw : c.execution.awaitsRequest = false) :
    ¬ c.execution.poll.1.stage.weight < c.execution.stage.weight := by
  intro hlt
  have hp := h .poll
  rw [step, poll_of_not_awaitsRequest env hw] at hp
  have hle := perform_weight_le env { c with execution := c.execution.poll.1 } c.execution.poll.2
  rw [hp] at hle
  have := Nat.add_lt_add_right hlt (Progress.weights c.requests)
  exact Nat.lt_irrefl _ (Nat.lt_of_le_of_lt hle this)

theorem Settled.not_sent (h : c.Settled env) (position : Nat) :
    c.requests[position]? ≠ some .sent := by
  intro hp
  have hr : c.resolve env position = c := h (.resolve position)
  have hlt := finish_weight_lt hp (by decide) (env.outcome position)
  simp only [resolve, hp] at hr
  rw [hr] at hlt
  exact Nat.lt_irrefl _ hlt

theorem Settled.send_eq (h : c.Settled env) (position : Nat)
    (ha : c.execution.awaitsRequest = true → position = 0) : c.send position = c := by
  cases hw : c.execution.awaitsRequest with
  | true =>
    rw [ha hw, ← poll_of_awaitsRequest env hw]
    exact h .poll
  | false => simpa [step, hw] using h (.send position)

theorem send_ne {position : Nat} (hl : c.requests.length = c.statements.length)
    (hp : c.requests[position]? = some .spawned) : c.send position ≠ c := by
  intro hs
  obtain ⟨hi, -⟩ := List.getElem?_eq_some_iff.mp hp
  obtain ⟨statement, hst⟩ : ∃ statement, c.statements[position]? = some statement :=
    ⟨_, List.getElem?_eq_getElem (hl ▸ hi)⟩
  have hr := congrArg Course.requests hs
  simp only [send, hp, hst] at hr
  have hp' := List.getElem?_set_self (a := Progress.sent) hi
  rw [hr, hp] at hp'
  cases hp'

/-- Requests that are settled are over. -/
theorem Settled.allEnded (h : c.Settled env) (hl : c.requests.length = c.statements.length)
    (ha : c.execution.awaitsRequest = true → c.requests.length ≤ 1) : c.AllEnded := by
  intro p hp
  obtain ⟨i, hi⟩ := List.mem_iff_getElem?.mp hp
  cases p with
  | ended => rfl
  | sent => exact absurd hi (h.not_sent i)
  | spawned =>
    refine absurd (h.send_eq i fun hw => ?_) (send_ne hl hi)
    have := ha hw
    have := (List.getElem?_eq_some_iff.mp hi).1
    omega

/-- A result that is there stays. -/
theorem run_result? (env : Environment ρ) {r : Result ρ} (h : c.execution.result? = some r)
    (moves : List Move) : (c.run env moves).execution.result? = some r :=
  run_execution (P := fun x => x.result? = some r)
    (fun _ s hx => Execution.result?_handle hx s) env h moves

variable {x₀ : Execution ρ} {processors : List (Processor ρ)} {gathered : Outcome (Result ρ)}

/-- Where a course settles its account is complete. -/
theorem OnTrack.of_settled (h : OnTrack env x₀ processors gathered c) (hs : c.Settled env)
    (hl : c.requests.length = c.statements.length) :
    c.AllEnded ∧ c.execution.stage = .ofEnding (account env x₀ processors gathered).ending := by
  cases h with
  | concluded ho hx => exact ⟨ho, hx⟩
  | running _ _ _ _ _ _ hk => exact absurd (hs.kept.symm.trans hk) (by simp)
  | processed _ _ _ hx =>
    have hw : c.execution.awaitsRequest = false := by simp only [Execution.awaitsRequest, hx]
    exact absurd (Execution.poll_processing_lt hx) (hs.poll_eq hw)
  | @gathering g hx hg =>
    have hst : c.execution.stage = .gathering g processors := by rw [hx]
    have ho : c.AllEnded := by
      refine hs.allEnded hl fun hw => ?_
      unfold Execution.awaitsRequest at hw
      rw [hst] at hw
      split at hw
      next heq => cases heq; exact Nat.le_of_eq hg.length_eq_of_single
      next => cases hw
    obtain ⟨r, hr⟩ := hg.result?_of_over ho
    have hw : c.execution.awaitsRequest = false := by
      unfold Execution.awaitsRequest
      rw [hst]
      split
      next heq => cases heq; cases hr
      next => rfl
    exact absurd (Execution.poll_gathering_lt hst hr) (hs.poll_eq hw)

/-- While requests are gathered nothing else has happened to the execution. -/
theorem OnTrack.of_gathering (h : OnTrack env x₀ processors gathered c) {g : Gathering ρ}
    {rest : List (Processor ρ)} (hx : c.execution.stage = .gathering g rest) :
    c.execution = { x₀ with stage := .gathering g processors } ∧
      Gathers x₀.translator env.outcome gathered c.requests g ∧ c.handed = [] := by
  cases h with
  | running _ _ _ hst => simp [hx] at hst
  | processed _ _ _ hst => simp [hx] at hst
  | concluded _ hst =>
    rw [hx] at hst
    cases he : (account env x₀ processors gathered).ending <;> simp [he, Stage.ofEnding] at hst
  | gathering hexec hg hh =>
    rw [hexec] at hx
    cases hx
    exact ⟨hexec, hg, hh⟩

/-- Nothing comes after the requests before all of them are over. -/
theorem OnTrack.allEnded (h : OnTrack env x₀ processors gathered c)
    (hx : c.execution.stage.isGathering = false) : c.AllEnded := by
  cases h with
  | gathering hexec => simp [hexec, Stage.isGathering] at hx
  | running _ _ hu => exact hu.ended
  | processed _ _ hu => exact hu.ended
  | concluded hover => exact hover

/-- Whoever finds a result, before the course is settled or later, finds the one of the account. -/
theorem OnTrack.of_result? (h : OnTrack env x₀ processors gathered c) {r : Result ρ}
    (hr : c.execution.result? = some r) :
    c.AllEnded ∧ c.execution.stage = .ofEnding (account env x₀ processors gathered).ending ∧
      c.handed = (account env x₀ processors gathered).tasks ∧
      c.processes = (env.taken 0 c.handed).filterMap Action.process? := by
  unfold Execution.result? at hr
  cases h with
  | gathering hx => simp [hx] at hr
  | running _ _ _ hx => simp [hx] at hr
  | processed _ _ _ hx => simp [hx] at hr
  | concluded ho hx hh hk hp => exact ⟨ho, hx, hh, hp⟩

private theorem isPrefix_of_midway {output input : Output ρ} {done : List (Action ρ)}
    {p : Processor ρ} {rest : List (Processor ρ)}
    (hm : Account.Midway env.discipline processors output done p rest input) :
    done ++ [.process p input] <+:
      (account env x₀ processors (.returned (.ok output))).tasks := by
  obtain ⟨more, hmore⟩ :=
    Account.exists_tasks_processing_cons env.discipline done.length p rest input
  refine ⟨more ++ Account.closing x₀.path x₀.notifier.handler output.failure?
    (Account.processing env.discipline 0 processors output).ending, ?_⟩
  change _ = (Account.processing env.discipline 0 processors output).tasks ++ _
  rw [hm.tasks, hmore]
  simp only [List.append_assoc, List.cons_append, List.nil_append]

/-- The tasks are handed over in the order of the account. -/
theorem OnTrack.handed_isPrefix (h : OnTrack env x₀ processors gathered c) :
    c.handed <+: (account env x₀ processors gathered).tasks := by
  cases h with
  | gathering hx hg hh =>
    rw [hh]
    exact List.nil_prefix
  | running ho hm _ _ _ hh =>
    rw [ho, hh]
    exact isPrefix_of_midway hm
  | processed ho hm _ _ _ hh =>
    rw [ho, hh]
    exact isPrefix_of_midway hm
  | concluded _ _ hh => exact hh ▸ List.prefix_rfl

/-- The last task was handed over when all before it had run, those apart that were dropped. -/
theorem OnTrack.ran_before_last (h : OnTrack env x₀ processors gathered c) :
    (env.taken 0 c.handed.dropLast).filterMap Action.process? <+: c.processes := by
  have hlast : env.taken 0 c.handed.dropLast <+: env.taken 0 c.handed := by
    obtain ⟨more, hmore⟩ := List.dropLast_prefix c.handed
    refine ⟨env.taken (0 + c.handed.dropLast.length) more, ?_⟩
    rw [← Environment.taken_append, hmore]
  cases h with
  | gathering hx hg hh =>
    rw [hh]
    exact List.nil_prefix
  | running _ _ _ _ _ hh _ hr =>
    rw [hh, List.dropLast_concat]
    exact hr ▸ List.prefix_rfl
  | processed _ _ _ _ _ _ _ hr =>
    rw [← hr] at hlast
    exact hlast.filterMap _
  | concluded _ _ _ _ hr =>
    rw [hr]
    exact hlast.filterMap _

end CqlOperations.Course
