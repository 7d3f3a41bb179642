import CqlOperations.Simulation.Clock
import Mathlib.Logic.Function.Iterate

/-! A world runs on by itself, one tick at a time. Whoever waits in it follows that course up to
some point, however he waits; only the clock of a world that has nothing to do is his to move. -/
namespace CqlOperations.Simulation.World

variable {ρ : Type}

/-- What an execution wants done next is logged or handed over. The rest is done after it, unless a
panic comes up. -/
theorem perform_cons (w : World ρ) (id : Nat) (executor : Executor) (name : String)
    (action : Action ρ) (rest : List (Action ρ)) :
    (∃ text, w.perform id executor name (action :: rest) =
        (w.log (.submission text)).perform id executor name rest) ∨
      ∃ t : Task ρ,
        w.perform id executor name (action :: rest) =
            (w.hand t executor).1.perform id executor name rest ∨
          ∃ message, w.perform id executor name (action :: rest) =
            (w.hand t executor).1.note id (.unwound message) := by
  cases action with
  | observe text => exact .inl ⟨_, rfl⟩
  | report report =>
    refine .inr ⟨.report report, ?_⟩
    simp only [perform]
    split
    next => exact .inl rfl
    next message _ => exact .inr ⟨message, rfl⟩
  | process processor input =>
    refine .inr ⟨.process id processor input, ?_⟩
    simp only [perform]
    split
    next => exact .inl rfl
    next message _ => exact .inr ⟨message, rfl⟩
  | deliver output =>
    refine .inr ⟨.deliver name output, ?_⟩
    simp only [perform]
    split
    next => exact .inl rfl
    next message _ => exact .inr ⟨message, rfl⟩

/-- What a world may become within a moment: the clock stands still, no timer is set to the past,
and what was logged stays. -/
structure Moment (w w' : World ρ) : Prop where
  now : w'.now = w.now
  timers : ∀ t ∈ w'.timers, t ∈ w.timers ∨ w.now ≤ t.due
  events : w.events <+: w'.events

namespace Moment

variable {w middle w' : World ρ}

theorem of_eq (hn : w'.now = w.now) (ht : w'.timers = w.timers) (he : w'.events = w.events) :
    w.Moment w' where
  now := hn
  timers _ h := .inl (ht ▸ h)
  events := he ▸ List.prefix_refl w.events

theorem refl (w : World ρ) : w.Moment w :=
  of_eq rfl rfl rfl

theorem trans (h : w.Moment middle) (h' : middle.Moment w') : w.Moment w' where
  now := h'.now.trans h.now
  timers t ht := by
    rcases h'.timers t ht with hm | hm
    · exact h.timers t hm
    · exact .inr (h.now ▸ hm)
  events := h.events.trans h'.events

theorem log (w : World ρ) (e : Event ρ) : w.Moment (w.log e) where
  now := rfl
  timers _ := .inl
  events := List.prefix_append w.events [e]

theorem signal (w : World ρ) (id : Nat) (s : Signal ρ) : w.Moment (w.signal id s).1 := by
  unfold World.signal
  split
  next => exact refl w
  next => exact of_eq rfl rfl rfl

theorem note (w : World ρ) (id : Nat) (s : Signal ρ) : w.Moment (w.note id s) :=
  signal w id s

theorem wake (w : World ρ) (id : Nat) : w.Moment (w.wake id) := by
  unfold World.wake
  split
  next =>
    split
    next => exact of_eq rfl rfl rfl
    next => exact refl w
  next => exact refl w

theorem runTask (w : World ρ) (t : Task ρ) : w.Moment (w.runTask t).1 := by
  cases t with
  | process id processor input =>
    have hlog := log w (.transform processor.label)
    unfold World.runTask
    dsimp only
    split
    next => exact hlog.trans ((note _ id _).trans (wake _ id))
    next => exact hlog.trans ((note _ id _).trans (wake _ id))
  | report report => exact log w _
  | deliver name output => exact log w _
  | complete handle result => exact log w _

theorem dropTask (w : World ρ) (t : Task ρ) : w.Moment (w.dropTask t) := by
  cases t with
  | process id processor input => exact (note w id .dropped).trans (wake _ id)
  | report report => exact refl w
  | deliver name output => exact refl w
  | complete handle result => exact refl w

theorem hand (w : World ρ) (t : Task ρ) (executor : Executor) :
    w.Moment (w.hand t executor).1 := by
  cases executor with
  | inline => exact runTask w t
  | blockingPool runtime =>
    unfold World.hand
    by_cases hd : w.down
    · simp only [hd, if_true]
      exact dropTask w t
    · simp only [hd]
      exact of_eq rfl rfl rfl
  | logged name discipline =>
    have hlog := log w (.executor name)
    cases discipline with
    | runs => exact hlog.trans (runTask _ t)
    | drops => exact hlog.trans (dropTask _ t)
    | keeps => exact hlog.trans (of_eq rfl rfl rfl)

theorem perform (w : World ρ) (id : Nat) (executor : Executor) (name : String)
    (actions : List (Action ρ)) : w.Moment (w.perform id executor name actions) := by
  induction actions generalizing w with
  | nil => exact refl w
  | cons action rest ih =>
    rcases perform_cons w id executor name action rest with
      ⟨text, heq⟩ | ⟨t, heq | ⟨message, heq⟩⟩
    · rw [heq]
      exact (log w _).trans (ih _)
    · rw [heq]
      exact (hand w t executor).trans (ih _)
    · rw [heq]
      exact (hand w t executor).trans (note _ id _)

theorem setPhase (w : World ρ) (id position : Nat) (phase : Phase ρ) :
    w.Moment (w.setPhase id position phase) :=
  of_eq rfl rfl rfl

theorem resolveRequest (w : World ρ) (id position : Nat) (r : Resolution ρ) :
    w.Moment (w.resolveRequest id position r) := by
  have hended := (setPhase w id position .over).trans (note _ id (.resolved position r))
  unfold World.resolveRequest
  dsimp only
  split
  next => exact hended.trans (wake _ id)
  next => exact hended

theorem finishRequest (w : World ρ) (id position : Nat) (key : String) (stub : Stub ρ) :
    w.Moment (w.finishRequest id position key stub) := by
  unfold World.finishRequest
  split
  next => exact resolveRequest w id position _
  next => exact (log w _).trans (resolveRequest _ id position _)

theorem enterGate (w : World ρ) (id position : Nat) (key : String) (stub : Stub ρ) :
    w.Moment (w.enterGate id position key stub) := by
  unfold World.enterGate
  split
  next => exact finishRequest w id position key stub
  next =>
    split
    next =>
      have htaken : w.Moment { w with permits := w.permits.erase key } := of_eq rfl rfl rfl
      exact htaken.trans (finishRequest _ id position key stub)
    next => exact of_eq rfl rfl rfl

theorem addTimer (w : World ρ) (job : Job ρ) (delay : Nat) :
    w.Moment { w with timers := w.timers ++ [⟨w.now + delay, job⟩] } where
  now := rfl
  timers t ht := by
    rcases List.mem_append.mp ht with ht | ht
    · exact .inl ht
    · rw [List.mem_singleton.mp ht]
      exact .inr (Nat.le_add_right w.now delay)
  events := List.prefix_refl w.events

theorem pollRequest (w : World ρ) (id position : Nat) :
    w.Moment (w.pollRequest id position) := by
  unfold World.pollRequest
  split
  next => exact refl w
  next request _ =>
    dsimp only
    split
    next =>
      have hreceived : w.Moment
          ({ w with received := request.statement.key :: w.received }.log
            (.received request.statement)) :=
        ⟨rfl, fun _ => .inl, List.prefix_append _ _⟩
      split
      next => exact hreceived.trans (enterGate _ id position _ _)
      next delay _ =>
        split
        next => exact hreceived.trans (resolveRequest _ id position _)
        next =>
          split
          next => exact hreceived.trans (enterGate _ id position _ _)
          next => exact hreceived.trans ((addTimer _ _ delay).trans (setPhase _ id position _))
    next =>
      split
      next => exact resolveRequest w id position _
      next =>
        split
        next => exact refl w
        next => exact enterGate w id position _ _
    next => exact finishRequest w id position _ _
    next => exact refl w
    next => exact refl w

theorem wakeWatchers (w : World ρ) (id : Nat) : w.Moment (w.wakeWatchers id) :=
  of_eq rfl rfl rfl

theorem advance (w : World ρ) (id fuel : Nat) : w.Moment (w.advance id fuel) := by
  induction fuel generalizing w with
  | zero => exact refl w
  | succ fuel ih =>
    unfold World.advance
    split
    next => exact refl w
    next flow _ =>
      have hpolled := signal w id .polled
      dsimp only
      split
      next => exact hpolled
      next => exact hpolled.trans ((perform _ id flow.executor flow.name _).trans (ih _))

theorem pollFlow (w : World ρ) (id : Nat) : w.Moment (w.pollFlow id) := by
  unfold World.pollFlow
  split
  next => exact refl w
  next flow _ =>
    split
    next => exact refl w
    next =>
      have hfirst : w.Moment
          (if flow.execution.awaitsRequest then w.pollRequest id 0 else w) := by
        split
        next => exact pollRequest w id 0
        next => exact refl w
      dsimp only
      generalize (if flow.execution.awaitsRequest then w.pollRequest id 0 else w) = first
        at hfirst ⊢
      have hadvanced := hfirst.trans (advance first id (2 * flow.layers + 4))
      split
      next => exact hadvanced.trans (wakeWatchers _ id)
      next => exact hadvanced

theorem runJob (w : World ρ) (job : Job ρ) : w.Moment (w.runJob job) := by
  cases job with
  | flow id => exact pollFlow w id
  | request id position => exact pollRequest w id position
  | work task => exact runTask w task
  | watch watcher =>
    unfold World.runJob
    dsimp only
    split
    next => exact hand w _ watcher.executor
    next => exact of_eq rfl rfl rfl

theorem release (w : World ρ) (key : String) : w.Moment (w.release key) := by
  unfold World.release
  split
  next => exact of_eq rfl rfl rfl
  next waiter _ =>
    have hgranted : w.Moment ({ w with waiters := w.waiters.eraseP (·.key = key) }.modifyFlow
        waiter.flow fun flow =>
          { flow with requests := flow.requests.modify waiter.position Request.grant }) :=
      of_eq rfl rfl rfl
    dsimp only
    split
    next id _ => exact hgranted.trans (wake _ id)
    next => exact hgranted.trans (of_eq rfl rfl rfl)

theorem dropFlow (w : World ρ) (id : Nat) : w.Moment (w.dropFlow id) := by
  unfold World.dropFlow
  split
  next => exact refl w
  next flow _ =>
    dsimp only
    split
    next => exact of_eq rfl rfl rfl
    next =>
      have hdropped : w.Moment { w.modifyFlow id (fun flow => { flow with mode := .dropped }) with
          waiters := (w.modifyFlow id fun flow => { flow with mode := .dropped }).waiters.filter
            (·.flow ≠ id) } := of_eq rfl rfl rfl
      split
      next => exact hdropped.trans (release _ _)
      next => exact hdropped

theorem dropTasks (w : World ρ) (tasks : List (Task ρ)) :
    w.Moment (tasks.foldl World.dropTask w) := by
  induction tasks generalizing w with
  | nil => exact refl w
  | cons task rest ih => exact (dropTask w task).trans (ih _)

theorem runKept (w : World ρ) (tasks : List (Task ρ)) : w.Moment (w.runKept tasks).1 := by
  induction tasks generalizing w with
  | nil => exact refl w
  | cons task rest ih =>
    have htask := runTask w task
    unfold World.runKept
    cases hrun : w.runTask task with
    | mk v panic? =>
      rw [hrun] at htask
      cases panic? with
      | none => exact htask.trans (ih v)
      | some message => exact htask.trans (dropTasks v rest)

end Moment

/-- No timer is overdue. -/
def Punctual (w : World ρ) : Prop :=
  ∀ t ∈ w.timers, w.now ≤ t.due

/-- What a world does next when nobody interferes: its first job, or else its next timers. -/
def tick (w : World ρ) : World ρ :=
  match w.queue with
  | job :: rest => { w with queue := rest }.runJob job
  | [] =>
    match w.nextDue? with
    | some due => w.fireTimers due
    | none => w

/-- Nothing is left to do, now or later. -/
def AtRest (w : World ρ) : Prop :=
  w.queue = [] ∧ w.timers = []

/-- Nothing is left to do at this moment. -/
def Quiet (w : World ρ) : Prop :=
  w.queue = [] ∧ ∀ t ∈ w.timers, w.now < t.due

variable {w w' middle origin : World ρ}

theorem nextDue?_eq_none (h : w.nextDue? = none) : w.timers = [] := by
  simpa [nextDue?] using h

theorem of_nextDue?_eq_some {due : Nat} (h : w.nextDue? = some due) :
    (∃ t ∈ w.timers, t.due = due) ∧ ∀ t ∈ w.timers, due ≤ t.due := by
  obtain ⟨hmem, hle⟩ := List.min?_eq_some_iff.mp h
  exact ⟨List.mem_map.mp hmem, fun t ht => hle t.due (List.mem_map_of_mem ht)⟩

/-- Before the first timer is due there is only the clock to move. -/
theorem fireTimers_early {limit : Nat} (hq : w.queue = []) (h : ∀ t ∈ w.timers, limit < t.due) :
    w.fireTimers limit = { w with now := limit } := by
  have hpart : w.timers.partition (fun t => decide (t.due ≤ limit)) = ([], w.timers) := by
    rw [List.partition_eq_filter_filter, Prod.mk.injEq]
    constructor
    · rw [List.filter_eq_nil_iff]
      intro t ht
      simpa using h t ht
    · rw [List.filter_eq_self]
      intro t ht
      simpa using h t ht
  unfold fireTimers
  rw [hpart]
  simp [hq]

theorem mem_timers_fireTimers {due : Nat} {t : Timer ρ} (h : t ∈ (w.fireTimers due).timers) :
    t ∈ w.timers ∧ due < t.due := by
  simpa [fireTimers, List.partition_eq_filter_filter] using h

theorem Moment.punctual (h : w.Moment w') (hp : w.Punctual) : w'.Punctual := by
  intro t ht
  rw [h.now]
  rcases h.timers t ht with hm | hm
  · exact hp t hm
  · exact hm

/-- A tick takes a world on, to a later time at most. -/
theorem tick_spec (hp : w.Punctual) :
    w.tick.Punctual ∧ w.now ≤ w.tick.now ∧ w.events <+: w.tick.events := by
  unfold tick
  split
  next job rest hq =>
    have hjob := Moment.runJob { w with queue := rest } job
    exact ⟨hjob.punctual hp, Nat.le_of_eq hjob.now.symm, hjob.events⟩
  next =>
    split
    next due hd =>
      obtain ⟨⟨t, ht, rfl⟩, -⟩ := of_nextDue?_eq_some hd
      refine ⟨?_, hp t ht, List.prefix_refl _⟩
      intro other hother
      exact Nat.le_of_lt (mem_timers_fireTimers hother).2
    next => exact ⟨hp, Nat.le_refl _, List.prefix_refl _⟩

theorem iterate_tick_spec (hp : w.Punctual) (n : Nat) :
    (tick^[n] w).Punctual ∧ w.now ≤ (tick^[n] w).now ∧ w.events <+: (tick^[n] w).events := by
  induction n with
  | zero => exact ⟨hp, Nat.le_refl _, List.prefix_refl _⟩
  | succ n ih =>
    obtain ⟨hpn, hnow, hevents⟩ := ih
    obtain ⟨hps, hnows, heventss⟩ := tick_spec hpn
    rw [Function.iterate_succ_apply']
    exact ⟨hps, Nat.le_trans hnow hnows, hevents.trans heventss⟩

theorem AtRest.tick (h : w.AtRest) : w.tick = w := by
  simp [World.tick, h.1, nextDue?, h.2]

theorem AtRest.iterate_tick (h : w.AtRest) (n : Nat) : World.tick^[n] w = w :=
  Function.iterate_fixed h.tick n

/-- The clock of a world that is quiet goes on before anything happens. -/
theorem Quiet.lt_now_tick (h : w.Quiet) (hr : ¬ w.AtRest) : w.now < w.tick.now := by
  cases hd : w.nextDue? with
  | none => exact absurd ⟨h.1, nextDue?_eq_none hd⟩ hr
  | some due =>
    obtain ⟨⟨t, ht, rfl⟩, -⟩ := of_nextDue?_eq_some hd
    have heq : w.tick = w.fireTimers t.due := by simp [tick, h.1, hd]
    rw [heq]
    exact h.2 t ht

/-- The same world, whose clock has gone on by itself while there was nothing to do. -/
structure Idles (w w' : World ρ) : Prop where
  same : w' = { w with now := w'.now }
  later : w.now ≤ w'.now
  busy : w.queue ≠ [] → w'.now = w.now
  punctual : w'.Punctual

namespace Idles

theorem refl (hp : w.Punctual) : w.Idles w :=
  ⟨rfl, Nat.le_refl _, fun _ => rfl, hp⟩

theorem queue (h : w.Idles w') : w'.queue = w.queue := by rw [h.same]

theorem timers (h : w.Idles w') : w'.timers = w.timers := by rw [h.same]

theorem events (h : w.Idles w') : w'.events = w.events := by rw [h.same]

theorem trans (h : w.Idles middle) (h' : middle.Idles w') : w.Idles w' where
  same := by rw [h'.same, h.same]
  later := Nat.le_trans h.later h'.later
  busy hq := (h'.busy (h.queue ▸ hq)).trans (h.busy hq)
  punctual := h'.punctual

/-- Two worlds that come of one by idling differ in their clocks. -/
theorem eq_now (h : w.Idles middle) (h' : w.Idles w') :
    w' = { middle with now := w'.now } := by
  rw [h'.same, h.same]

/-- A world that has something to do is not changed by idling before. -/
theorem tick_eq (h : w.Idles w') (hr : ¬ w.AtRest) : w'.tick = w.tick := by
  by_cases hq : w.queue = []
  · cases hd : w.nextDue? with
    | none => exact absurd ⟨hq, nextDue?_eq_none hd⟩ hr
    | some due =>
      have hd' : w'.nextDue? = some due := by rw [nextDue?, h.timers, ← nextDue?, hd]
      simp only [World.tick, h.queue, hq, hd, hd']
      rw [h.same]
      rfl
  · have heq : w' = w := by rw [h.same, h.busy hq]
    rw [heq]

theorem tick (hp : w.Punctual) (h : w.Idles w') : w.tick.Idles w'.tick := by
  by_cases hr : w.AtRest
  · have hr' : w'.AtRest := ⟨h.queue.trans hr.1, h.timers.trans hr.2⟩
    rw [hr.tick, hr'.tick]
    exact h
  · rw [h.tick_eq hr]
    exact refl (tick_spec hp).1

theorem iterate_tick (hp : w.Punctual) (h : w.Idles w') (n : Nat) :
    (World.tick^[n] w).Idles (World.tick^[n] w') := by
  induction n with
  | zero => exact h
  | succ n ih =>
    rw [Function.iterate_succ_apply', Function.iterate_succ_apply']
    exact ih.tick (iterate_tick_spec hp n).1

end Idles

/-- `w'` is a point of the course that `w` takes by itself, or between two of them. -/
def RunsOn (w w' : World ρ) : Prop :=
  ∃ n, (tick^[n] w).Idles w'

namespace RunsOn

theorem refl (hp : w.Punctual) : w.RunsOn w :=
  ⟨0, Idles.refl hp⟩

theorem punctual (h : w.RunsOn w') : w'.Punctual :=
  h.choose_spec.punctual

theorem tick (h : w.tick.RunsOn w') : w.RunsOn w' := by
  obtain ⟨n, hn⟩ := h
  exact ⟨n + 1, hn⟩

theorem trans (hp : w.Punctual) (h : w.RunsOn middle) (h' : middle.RunsOn w') : w.RunsOn w' := by
  obtain ⟨m, hm⟩ := h
  obtain ⟨n, hn⟩ := h'
  refine ⟨n + m, ?_⟩
  rw [Function.iterate_add_apply]
  exact (hm.iterate_tick (iterate_tick_spec hp m).1 n).trans hn

end RunsOn

/-- The clock of a world without anything to do is moved to `limit`. -/
private theorem idles_of_early {limit : Nat} (hl : w.now ≤ limit) (hq : w.queue = [])
    (h : ∀ t ∈ w.timers, limit < t.due) : w.Idles (w.fireTimers limit) := by
  rw [fireTimers_early hq h]
  refine ⟨rfl, hl, fun hne => absurd hq hne, fun t ht => Nat.le_of_lt (h t ht)⟩

/-- However long and for whatever a world is run, it keeps to its course. -/
theorem runsOn_runUntil (hp : w.Punctual) {limit : Nat} (hl : w.now ≤ limit)
    (stop : World ρ → Bool) (fuel : Nat) : w.RunsOn (w.runUntil limit stop fuel) := by
  induction fuel generalizing w with
  | zero => exact .refl hp
  | succ fuel ih =>
    have hnext := tick_spec hp
    unfold runUntil
    split
    next => exact .refl hp
    next =>
      split
      next job rest hq =>
        have ht : w.tick = { w with queue := rest }.runJob job := by simp [tick, hq]
        have hnow := (Moment.runJob { w with queue := rest } job).now
        rw [ht] at hnext
        apply RunsOn.tick
        rw [ht]
        exact ih hnext.1 (by rw [hnow]; exact hl)
      next hq =>
        split
        next due hd =>
          have ht : w.tick = w.fireTimers due := by simp [tick, hq, hd]
          rw [ht] at hnext
          split
          next hlt =>
            apply RunsOn.tick
            rw [ht]
            exact ih hnext.1 (Nat.le_of_lt hlt)
          next hge =>
            obtain ⟨-, hfirst⟩ := of_nextDue?_eq_some hd
            rcases Nat.lt_or_eq_of_le (Nat.le_of_not_lt hge) with hearly | rfl
            · exact ⟨0, idles_of_early hl hq fun t ht' =>
                Nat.lt_of_lt_of_le hearly (hfirst t ht')⟩
            · apply RunsOn.tick
              rw [ht]
              exact .refl hnext.1
        next hd =>
          have hnone := nextDue?_eq_none hd
          exact ⟨0, idles_of_early hl hq (by simp [hnone])⟩

theorem runsOn_settle (hp : w.Punctual) : w.RunsOn w.settle :=
  runsOn_runUntil hp (Nat.le_refl _) _ _

theorem runsOn_sleepUntil (hp : w.Punctual) {due : Nat} (hl : w.now ≤ due) :
    w.RunsOn (w.sleepUntil due) :=
  runsOn_runUntil hp hl _ _

theorem runsOn_waitFor (hp : w.Punctual) (id : Nat) (limit : Nat) :
    w.RunsOn (w.waitFor id limit) := by
  unfold waitFor
  split
  next => exact .refl hp
  next hlt => exact runsOn_runUntil hp (by omega) _ _

theorem punctual_driveFlow (hp : w.Punctual) (id : Nat) : (w.driveFlow id).Punctual := by
  have hdriven : w.Moment { w with driven := some id } := .of_eq rfl rfl rfl
  have hpolled := (hdriven.trans (Moment.pollFlow _ id)).punctual hp
  unfold driveFlow
  dsimp only
  generalize { w with driven := some id }.pollFlow id = polled at hpolled ⊢
  have hwaited : (if polled.down then polled
      else (polled.waitFor id (polled.now + patience)).pollFlow id).Punctual := by
    split
    next => exact hpolled
    next => exact (Moment.pollFlow _ id).punctual (runsOn_waitFor hpolled id _).punctual
  exact hwaited

end CqlOperations.Simulation.World
