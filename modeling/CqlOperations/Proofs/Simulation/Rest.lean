import CqlOperations.Proofs.Simulation.Clock
import CqlOperations.Proofs.Simulation.Trajectory
import Mathlib.Algebra.Ring.Nat

/-! Every world comes to rest. A tick gets an execution on, or else a request, or else it leaves less
to be run than there was. -/
namespace CqlOperations.Simulation

variable {ρ : Type}

/-- A bound on the steps that a request has still to take. -/
def Phase.weight : Phase ρ → Nat
  | .fresh => 3
  | .sleeping .. => 2
  | .waiting _ => 1
  | .admitted _ => 1
  | .over => 0

/-- The jobs that a task may bring about. -/
def Task.cost : Task ρ → Nat
  | .process .. => 1
  | _ => 0

/-- The jobs that a job may bring about, and itself. -/
def Job.cost : Job ρ → Nat
  | .work task => task.cost + 1
  | .watch _ => 2
  | _ => 1

theorem sum_map_set {α : Type} (f : α → Nat) {xs : List α} {i : Nat} {x : α}
    (h : xs[i]? = some x) (y : α) : ((xs.set i y).map f).sum + f x = (xs.map f).sum + f y := by
  induction xs generalizing i with
  | nil => simp at h
  | cons first rest ih =>
    cases i with
    | zero =>
      simp only [List.getElem?_cons_zero, Option.some.injEq] at h
      subst h
      simp only [List.set_cons_zero, List.map_cons, List.sum_cons]
      omega
    | succ i =>
      have := ih (i := i) (by simpa using h)
      simp only [List.set_cons_succ, List.map_cons, List.sum_cons]
      omega

namespace World

/-- What the executions have before them. -/
def stages (w : World ρ) : Nat :=
  (w.flows.map fun f => f.execution.stage.weight).sum

/-- What the requests have before them. -/
def phases (w : World ρ) : Nat :=
  (w.flows.map fun f => (f.requests.map fun r => r.phase.weight).sum).sum

/-- What is left to be run. A job that waits for its time costs more, a watcher as much as its job. -/
def backlog (w : World ρ) : Nat :=
  (w.queue.map Job.cost).sum + (w.timers.map fun t => t.job.cost + 1).sum + 2 * w.watchers.length

/-- A change that gets an execution on, or else a request, or else makes work for `k` jobs at most. -/
def Costs (k : Nat) (w w' : World ρ) : Prop :=
  w'.stages < w.stages ∨ w'.stages = w.stages ∧
    (w'.phases < w.phases ∨ w'.phases = w.phases ∧ w'.backlog ≤ w.backlog + k)

namespace Costs

variable {k n : Nat} {w middle w' : World ρ}

theorem of_eq (hf : w'.flows = w.flows) (hb : w'.backlog ≤ w.backlog + k) : Costs k w w' := by
  right
  refine ⟨by unfold stages; rw [hf], .inr ⟨by unfold phases; rw [hf], hb⟩⟩

theorem refl (w : World ρ) : Costs 0 w w :=
  of_eq rfl (Nat.le_refl _)

theorem trans (h : Costs k w middle) (h' : Costs n middle w') : Costs (k + n) w w' := by
  unfold Costs at *
  omega

theorem mono (h : Costs k w w') (hkn : k ≤ n) : Costs n w w' := by
  unfold Costs at *
  omega

/-- Once an execution has got on it does not matter what comes of it. -/
theorem of_stages_lt (h : middle.stages < w.stages) (h' : Costs k middle w') : Costs 0 w w' := by
  unfold Costs at *
  omega

theorem of_phases_lt (hs : middle.stages ≤ w.stages) (h : middle.phases < w.phases)
    (h' : Costs k middle w') : Costs 0 w w' := by
  unfold Costs at *
  omega

theorem log (w : World ρ) (e : Event ρ) : Costs 0 w (w.log e) :=
  of_eq rfl (Nat.le_refl _)

theorem enqueue (w : World ρ) (job : Job ρ) : Costs job.cost w (w.enqueue job) := by
  refine of_eq rfl (Nat.le_of_eq ?_)
  simp only [backlog, World.enqueue, List.map_append, List.map_cons, List.map_nil, List.sum_append,
    List.sum_cons, List.sum_nil]
  omega

/-- What a signal to an execution does to the world. -/
theorem signal_spec {id : Nat} {flow : Flow ρ} (hf : w.flows[id]? = some flow) (s : Signal ρ) :
    (w.signal id s).1.stages + flow.execution.stage.weight =
        w.stages + (flow.execution.handle s).1.stage.weight ∧
      (w.signal id s).1.phases = w.phases ∧ (w.signal id s).1.backlog = w.backlog := by
  simp only [World.signal, hf]
  refine ⟨sum_map_set _ hf _, ?_, rfl⟩
  have hsum := sum_map_set (fun f : Flow ρ => (f.requests.map fun r => r.phase.weight).sum) hf
    { flow with execution := (flow.execution.handle s).1 }
  exact Nat.add_right_cancel hsum

theorem signal (w : World ρ) (id : Nat) (s : Signal ρ) : Costs 0 w (w.signal id s).1 := by
  cases hf : w.flows[id]? with
  | none =>
    simp only [World.signal, hf]
    exact refl w
  | some flow =>
    have hle := flow.execution.handle_weight_le s
    obtain ⟨hstages, hphases, hbacklog⟩ := signal_spec hf s
    unfold Costs
    omega

theorem note (w : World ρ) (id : Nat) (s : Signal ρ) : Costs 0 w (w.note id s) :=
  signal w id s

theorem wake (w : World ρ) (id : Nat) : Costs 1 w (w.wake id) := by
  unfold World.wake
  split
  next =>
    split
    next => exact enqueue w (.flow id)
    next => exact (refl w).mono (Nat.zero_le 1)
  next => exact (refl w).mono (Nat.zero_le 1)

theorem runTask (w : World ρ) (t : Task ρ) : Costs t.cost w (w.runTask t).1 := by
  cases t with
  | process id processor input =>
    have hlog := log w (.transform processor.label)
    have hwake : ∀ s, Costs 1 w (((w.log (.transform processor.label)).note id s).wake id) :=
      fun s => hlog.trans ((note _ id s).trans (wake _ id))
    unfold World.runTask
    dsimp only
    split
    next => exact hwake _
    next => exact hwake _
  | report report => exact log w _
  | deliver name output => exact log w _
  | complete handle result => exact log w _

theorem dropTask (w : World ρ) (t : Task ρ) : Costs t.cost w (w.dropTask t) := by
  cases t with
  | process id processor input => exact (note w id .dropped).trans (wake _ id)
  | report report => exact refl w
  | deliver name output => exact refl w
  | complete handle result => exact refl w

theorem hand (w : World ρ) (t : Task ρ) (executor : Executor) :
    Costs (t.cost + 1) w (w.hand t executor).1 := by
  cases executor with
  | inline => exact (runTask w t).mono (Nat.le_succ _)
  | blockingPool runtime =>
    unfold World.hand
    by_cases hd : w.down
    · simp only [hd, if_true]
      exact (dropTask w t).mono (Nat.le_succ _)
    · simp only [hd]
      exact enqueue w (.work t)
  | logged name discipline =>
    have hlog := log w (.executor name)
    cases discipline with
    | runs => exact (hlog.trans (runTask _ t)).mono (by omega)
    | drops => exact (hlog.trans (dropTask _ t)).mono (by omega)
    | keeps =>
      have hkept : Costs 0 (w.log (.executor name))
          { w.log (.executor name) with kept := w.kept ++ [t] } := of_eq rfl (Nat.le_refl _)
      exact (hlog.trans hkept).mono (by omega)

/-- What an execution wants done costs something that is not to matter. -/
theorem exists_perform (w : World ρ) (id : Nat) (executor : Executor) (name : String)
    (actions : List (Action ρ)) : ∃ k, Costs k w (w.perform id executor name actions) := by
  induction actions generalizing w with
  | nil => exact ⟨0, refl w⟩
  | cons action rest ih =>
    rcases perform_cons w id executor name action rest with
      ⟨text, heq⟩ | ⟨t, heq | ⟨message, heq⟩⟩
    · obtain ⟨k, hk⟩ := ih (w.log (.submission text))
      rw [heq]
      exact ⟨_, (log w _).trans hk⟩
    · obtain ⟨k, hk⟩ := ih (w.hand t executor).1
      rw [heq]
      exact ⟨_, (hand w t executor).trans hk⟩
    · rw [heq]
      exact ⟨_, (hand w t executor).trans (note _ id _)⟩

theorem advance (w : World ρ) (id fuel : Nat) : Costs 0 w (w.advance id fuel) := by
  induction fuel generalizing w with
  | zero => exact refl w
  | succ fuel ih =>
    unfold World.advance
    split
    next => exact refl w
    next flow hf =>
      dsimp only
      split
      next => exact signal w id .polled
      next hactions =>
        -- only an execution that gets on wants anything done
        have hlt : (w.signal id .polled).1.stages < w.stages := by
          obtain ⟨hstages, -, -⟩ := signal_spec hf .polled
          rcases flow.execution.poll_eq_or_lt with hsame | hlt
          · simp [World.signal, hf, Execution.handle, hsame] at hactions
          · have hh : (flow.execution.handle .polled).1 = flow.execution.poll.1 := rfl
            rw [hh] at hstages
            omega
        obtain ⟨k, hk⟩ := exists_perform (w.signal id .polled).1 id flow.executor flow.name
          (w.signal id .polled).2
        exact of_stages_lt hlt (hk.trans (ih _))

/-- What the step of a request does to the world. -/
theorem setPhase_spec {id position : Nat} {request : Request ρ}
    (hr : w.flows[id]?.bind (·.requests[position]?) = some request) (phase : Phase ρ) :
    (w.setPhase id position phase).stages = w.stages ∧
      (w.setPhase id position phase).phases + request.phase.weight =
        w.phases + phase.weight := by
  obtain ⟨flow, hf, hp⟩ := Option.bind_eq_some_iff.mp hr
  have hflow := sum_map_set (fun r : Request ρ => r.phase.weight) hp { request with phase := phase }
  have hset : (w.setPhase id position phase).flows = w.flows.set id { flow with
      requests := flow.requests.set position { request with phase := phase } } := by
    simp only [World.setPhase, modifyFlow, modify_eq_set hf, modify_eq_set hp]
  unfold stages phases
  rw [hset]
  constructor
  · exact Nat.add_right_cancel
      (sum_map_set (fun f : Flow ρ => f.execution.stage.weight) hf _)
  · have hflows := sum_map_set
      (fun f : Flow ρ => (f.requests.map fun r => r.phase.weight).sum) hf
      { flow with requests := flow.requests.set position { request with phase := phase } }
    dsimp only at hflow hflows
    omega

/-- A request that gets on pays for whatever comes of it. -/
theorem of_setPhase {id position : Nat} {request : Request ρ} {phase : Phase ρ}
    (hr : w.flows[id]?.bind (·.requests[position]?) = some request)
    (hlt : phase.weight < request.phase.weight)
    (h : Costs k (w.setPhase id position phase) w') : Costs 0 w w' := by
  obtain ⟨hstages, hphases⟩ := setPhase_spec hr phase
  exact of_phases_lt (Nat.le_of_eq hstages) (by omega) h

theorem resolveRequest {id position : Nat} {request : Request ρ}
    (hr : w.flows[id]?.bind (·.requests[position]?) = some request)
    (hlt : 0 < request.phase.weight) {r : Resolution ρ} :
    Costs 0 w (w.resolveRequest id position r) := by
  have hlt : (Phase.over : Phase ρ).weight < request.phase.weight := hlt
  have hnote := note (w.setPhase id position .over) id (.resolved position r)
  unfold World.resolveRequest
  dsimp only
  split
  next => exact of_setPhase hr hlt (hnote.trans (wake _ id))
  next => exact of_setPhase hr hlt hnote

theorem finishRequest {id position : Nat} {request : Request ρ}
    (hr : w.flows[id]?.bind (·.requests[position]?) = some request)
    (hlt : 0 < request.phase.weight) {key : String} {stub : Stub ρ} :
    Costs 0 w (w.finishRequest id position key stub) := by
  unfold World.finishRequest
  split
  next => exact resolveRequest hr hlt
  next =>
    apply (log w (.done key)).trans (n := 0)
    apply resolveRequest
    · exact hr
    · exact hlt

theorem enterGate {id position : Nat} {request : Request ρ}
    (hr : w.flows[id]?.bind (·.requests[position]?) = some request)
    (hlt : 1 < request.phase.weight) {key : String} {stub : Stub ρ} :
    Costs 0 w (w.enterGate id position key stub) := by
  have hpos : 0 < request.phase.weight := by omega
  have hwaiting : (Phase.waiting stub).weight < request.phase.weight := hlt
  unfold World.enterGate
  split
  next => exact finishRequest hr hpos
  next =>
    split
    next =>
      have htaken : Costs 0 w { w with permits := w.permits.erase key } :=
        of_eq rfl (Nat.le_refl _)
      apply htaken.trans (n := 0)
      apply finishRequest
      · exact hr
      · exact hpos
    next =>
      have hqueued : Costs 0 w { w with waiters := w.waiters ++ [⟨key, id, position⟩] } :=
        of_eq rfl (Nat.le_refl _)
      apply hqueued.trans (n := 0)
      refine of_setPhase ?_ hwaiting (refl _)
      exact hr

/-- The timer is paid for by the request that falls asleep. -/
theorem sleepRequest {id position : Nat} {request : Request ρ}
    (hr : w.flows[id]?.bind (·.requests[position]?) = some request)
    (hlt : 2 < request.phase.weight) (t : Timer ρ) (due : Nat) (stub : Stub ρ) :
    Costs 0 w ({ w with timers := w.timers ++ [t] }.setPhase id position (.sleeping due stub)) := by
  have hr : { w with timers := w.timers ++ [t] }.flows[id]?.bind (·.requests[position]?) =
      some request := hr
  obtain ⟨hstages, hphases⟩ := setPhase_spec hr (.sleeping due stub)
  have hweight : (Phase.sleeping due stub).weight = 2 := rfl
  have hlower : ({ w with timers := w.timers ++ [t] }.setPhase id position
      (.sleeping due stub)).phases < w.phases := by
    change _ = w.phases + _ at hphases
    omega
  exact of_phases_lt (Nat.le_of_eq hstages) hlower (refl _)

theorem pollRequest (w : World ρ) (id position : Nat) :
    Costs 0 w (w.pollRequest id position) := by
  unfold World.pollRequest
  split
  next => exact refl w
  next request hr =>
    dsimp only
    split
    next hfresh =>
      have hweight : request.phase.weight = 3 := by rw [hfresh, Phase.weight]
      have hreceived : Costs 0 w
          ({ w with received := request.statement.key :: w.received }.log
            (.received request.statement)) := of_eq rfl (Nat.le_refl _)
      have hr : ({ w with received := request.statement.key :: w.received }.log
          (.received request.statement)).flows[id]?.bind (·.requests[position]?) =
            some request := hr
      generalize { w with received := request.statement.key :: w.received }.log
        (.received request.statement) = v at hreceived hr ⊢
      apply hreceived.trans (n := 0)
      split
      next => exact enterGate hr (by omega)
      next delay _ =>
        split
        next => exact resolveRequest hr (by omega)
        next =>
          split
          next => exact enterGate hr (by omega)
          next => exact sleepRequest hr (by omega) _ _ _
    next hsleeping =>
      have hweight : request.phase.weight = 2 := by rw [hsleeping, Phase.weight]
      split
      next => exact resolveRequest hr (by omega)
      next =>
        split
        next => exact refl w
        next => exact enterGate hr (by omega)
    next hadmitted =>
      have hweight : request.phase.weight = 1 := by rw [hadmitted, Phase.weight]
      exact finishRequest hr (by omega)
    next => exact refl w
    next => exact refl w

/-- A watcher costs as much as its job, whichever of them become jobs. -/
theorem backlog_of_due {due rest : List (Watcher ρ)} (h : (due ++ rest).Perm w.watchers) :
    { w with watchers := rest, queue := w.queue ++ due.map Job.watch }.backlog = w.backlog := by
  have hlength := h.length_eq
  have hcost : ((due.map Job.watch).map Job.cost).sum = 2 * due.length := by
    clear h hlength
    induction due with
    | nil => rfl
    | cons watcher due ih =>
      simp only [List.map_cons, List.sum_cons, ih, Job.cost, List.length_cons]
      omega
  rw [List.length_append] at hlength
  simp only [backlog, List.map_append, List.sum_append, hcost]
  omega

theorem wakeWatchers (w : World ρ) (id : Nat) : Costs 0 w (w.wakeWatchers id) :=
  of_eq rfl (Nat.le_of_eq (backlog_of_due (partition_perm _ w.watchers)))

theorem pollFlow (w : World ρ) (id : Nat) : Costs 0 w (w.pollFlow id) := by
  unfold World.pollFlow
  split
  next => exact refl w
  next flow _ =>
    split
    next => exact refl w
    next =>
      have hfirst : Costs 0 w (if flow.execution.awaitsRequest then w.pollRequest id 0 else w) := by
        split
        next => exact pollRequest w id 0
        next => exact refl w
      dsimp only
      generalize (if flow.execution.awaitsRequest then w.pollRequest id 0 else w) = first
        at hfirst ⊢
      have hadvanced := hfirst.trans (advance first id (2 * flow.layers + 4))
      split
      next => exact hadvanced.trans (wakeWatchers _ id)
      next => exact hadvanced

end Costs

/-- A step that leaves less to be done. -/
def Lowers (w w' : World ρ) : Prop :=
  w'.stages < w.stages ∨ w'.stages = w.stages ∧
    (w'.phases < w.phases ∨ w'.phases = w.phases ∧
      (w'.backlog < w.backlog ∨ w'.backlog = w.backlog ∧ w'.queue.length < w.queue.length))

variable {w w' : World ρ}

theorem Costs.lowers {k : Nat} {job : Job ρ} {rest : List (Job ρ)} (hq : w.queue = job :: rest)
    (h : Costs k { w with queue := rest } w') (hk : k < job.cost) : w.Lowers w' := by
  have hpop : { w with queue := rest }.backlog + job.cost = w.backlog := by
    simp only [backlog, hq, List.map_cons, List.sum_cons]
    omega
  have hs : { w with queue := rest }.stages = w.stages := rfl
  have hp : { w with queue := rest }.phases = w.phases := rfl
  unfold Costs at h
  unfold Lowers
  omega

theorem runJob_lowers {job : Job ρ} {rest : List (Job ρ)} (hq : w.queue = job :: rest) :
    w.Lowers ({ w with queue := rest }.runJob job) := by
  cases job with
  | flow id => exact (Costs.pollFlow _ id).lowers hq Nat.one_pos
  | request id position => exact (Costs.pollRequest _ id position).lowers hq Nat.one_pos
  | work task => exact (Costs.runTask _ task).lowers hq (Nat.lt_succ_self _)
  | watch watcher =>
    unfold runJob
    dsimp only
    split
    next result _ =>
      exact (Costs.hand _ (.complete watcher.name result) watcher.executor).lowers hq Nat.one_lt_two
    next =>
      -- a watcher costs as much as its job, but it is not in the queue
      right
      refine ⟨rfl, .inr ⟨rfl, .inr ⟨?_, ?_⟩⟩⟩
      · simp only [backlog, hq, List.length_append, List.length_singleton, List.map_cons,
          List.sum_cons, Job.cost]
        omega
      · simp [hq]

/-- Timers cost as much as their jobs, and a step each. -/
theorem sum_map_timers (timers : List (Timer ρ)) :
    (timers.map fun t => t.job.cost + 1).sum =
      ((timers.map Timer.job).map Job.cost).sum + timers.length := by
  induction timers with
  | nil => rfl
  | cons t rest ih =>
    simp only [List.map_cons, List.sum_cons, List.length_cons, ih]
    omega

/-- Timers that fire cost less as jobs, in whatever order they become jobs. -/
theorem backlog_lt_of_fired {fired rest : List (Timer ρ)} (ht : (fired ++ rest).Perm w.timers)
    (hn : fired ≠ []) {own others : List (Job ρ)}
    (hj : (own ++ others).Perm (fired.map Timer.job)) (due : Nat) :
    { w with now := due, timers := rest, queue := w.queue ++ own ++ others }.backlog <
      w.backlog := by
  have htimers := (ht.map fun t => t.job.cost + 1).sum_nat
  have hjobs := (hj.map Job.cost).sum_nat
  have hfired := sum_map_timers fired
  have hpositive := List.length_pos_iff.mpr hn
  simp only [List.map_append, List.sum_append] at htimers hjobs
  simp only [backlog, List.map_append, List.sum_append]
  omega

theorem fireTimers_lowers {due : Nat} (hd : w.nextDue? = some due) :
    w.Lowers (w.fireTimers due) := by
  obtain ⟨⟨t, ht, hdue⟩, -⟩ := of_nextDue?_eq_some hd
  have hfired : t ∈ (w.timers.partition fun t => decide (t.due ≤ due)).1 := by
    rw [List.partition_eq_filter_filter, List.mem_filter]
    exact ⟨ht, decide_eq_true (Nat.le_of_eq hdue)⟩
  right
  refine ⟨rfl, .inr ⟨rfl, .inl ?_⟩⟩
  exact backlog_lt_of_fired (partition_perm _ w.timers) (List.ne_nil_of_mem hfired)
    (partition_perm _ _) due

theorem tick_lowers (hr : ¬ w.AtRest) : w.Lowers w.tick := by
  unfold tick
  split
  next job rest hq => exact runJob_lowers hq
  next hq =>
    split
    next due hd => exact fireTimers_lowers hd
    next hd => exact absurd ⟨hq, nextDue?_eq_none hd⟩ hr

/-- Whatever there is to do in a world comes to an end. -/
theorem exists_atRest (w : World ρ) : ∃ n, (tick^[n] w).AtRest := by
  by_cases hr : w.AtRest
  · exact ⟨0, hr⟩
  · have hlower := tick_lowers hr
    obtain ⟨n, hn⟩ := exists_atRest w.tick
    exact ⟨n + 1, hn⟩
termination_by (w.stages, w.phases, w.backlog, w.queue.length)
decreasing_by
  simp only [Prod.lex_def]
  exact hlower

end World
end CqlOperations.Simulation
