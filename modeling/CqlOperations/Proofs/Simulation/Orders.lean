import CqlOperations.Proofs.Simulation.Calls
import CqlOperations.Proofs.Simulation.Scene
import CqlOperations.Proofs.Terms

/-! The orders of an execution: its executor, its terms and its statements. They are given when the
operation is submitted, and nothing that happens later takes any of them back. -/
namespace CqlOperations.Simulation

variable {ρ : Type}

structure Orders where
  executor : Executor
  terms : Terms
  statements : List Statement

def Flow.orders (f : Flow ρ) : Orders :=
  ⟨f.executor, f.execution.terms, f.requests.map Request.statement⟩

theorem Flow.orders_requests (f : Flow ρ) (position : Nat) {g : Request ρ → Request ρ}
    (hg : ∀ r, (g r).statement = r.statement) :
    ({ f with requests := f.requests.modify position g } : Flow ρ).orders = f.orders := by
  simp only [orders, map_modify_eq hg]

theorem Flow.orders_cancelTask (f : Flow ρ) : f.cancelTask.orders = f.orders := by
  unfold cancelTask
  split <;> rfl

theorem Flow.orders_cancelRequests (f : Flow ρ) : f.cancelRequests.orders = f.orders := by
  have hterms : ∀ (is : List Nat) (x : Execution ρ),
      (is.foldl (fun x i => x.resolve i .cancelled) x).terms = x.terms := by
    intro is
    induction is with
    | nil => exact fun _ => rfl
    | cons i rest ih => exact fun x => (ih _).trans (x.terms_resolve i .cancelled)
  unfold cancelRequests
  split
  next => simp only [orders, hterms, List.map_map, Function.comp_def]
  next => rfl

namespace World

/-- The orders of all executions, by number. -/
def orders (w : World ρ) : List Orders :=
  w.flows.map Flow.orders

theorem orders_modifyFlow (w : World ρ) (id : Nat) {g : Flow ρ → Flow ρ}
    (hg : ∀ f, (g f).orders = f.orders) : (w.modifyFlow id g).orders = w.orders := by
  unfold orders modifyFlow
  rw [map_modify_eq hg]

@[simp] theorem orders_log (w : World ρ) (e : Event ρ) : (w.log e).orders = w.orders := rfl

@[simp] theorem orders_enqueue (w : World ρ) (j : Job ρ) : (w.enqueue j).orders = w.orders := rfl

@[simp] theorem orders_fireTimers (w : World ρ) (due : Nat) :
    (w.fireTimers due).orders = w.orders := rfl

@[simp] theorem orders_wakeWatchers (w : World ρ) (id : Nat) :
    (w.wakeWatchers id).orders = w.orders := rfl

@[simp] theorem orders_signal (w : World ρ) (id : Nat) (s : Signal ρ) :
    (w.signal id s).1.orders = w.orders := by
  unfold signal
  split
  next => rfl
  next f hf =>
    have ho : ({ f with execution := (f.execution.handle s).1 } : Flow ρ).orders = f.orders := by
      simp only [Flow.orders, f.execution.terms_handle s]
    unfold orders
    dsimp only
    rw [List.map_set, ho]
    exact set_eq_self (by rw [List.getElem?_map, hf]; rfl)

@[simp] theorem orders_note (w : World ρ) (id : Nat) (s : Signal ρ) :
    (w.note id s).orders = w.orders :=
  w.orders_signal id s

@[simp] theorem orders_wake (w : World ρ) (id : Nat) : (w.wake id).orders = w.orders := by
  unfold wake
  split
  next => split <;> rfl
  next => rfl

@[simp] theorem orders_runTask (w : World ρ) (t : Task ρ) : (w.runTask t).1.orders = w.orders := by
  cases t with
  | process id processor input =>
    unfold runTask
    dsimp only
    split <;> simp
  | _ => rfl

@[simp] theorem orders_dropTask (w : World ρ) (t : Task ρ) : (w.dropTask t).orders = w.orders := by
  cases t with
  | process id processor input => simp [dropTask]
  | _ => rfl

@[simp] theorem orders_hand (w : World ρ) (t : Task ρ) (executor : Executor) :
    (w.hand t executor).1.orders = w.orders := by
  cases executor with
  | inline => exact w.orders_runTask t
  | blockingPool runtime =>
    unfold hand
    dsimp only
    split <;> simp
  | logged name d =>
    cases d with
    | runs => simp [hand]
    | drops => simp [hand]
    | keeps => rfl

@[simp] theorem orders_perform (w : World ρ) (id : Nat) (executor : Executor) (name : String)
    (actions : List (Action ρ)) : (w.perform id executor name actions).orders = w.orders := by
  induction actions generalizing w with
  | nil => rfl
  | cons action rest ih =>
    rcases perform_cons w id executor name action rest with
      ⟨text, heq⟩ | ⟨t, heq | ⟨message, heq⟩⟩
    · rw [heq, ih, orders_log]
    · rw [heq, ih, orders_hand]
    · rw [heq, orders_note, orders_hand]

@[simp] theorem orders_dropTasks (w : World ρ) (ts : List (Task ρ)) :
    (ts.foldl dropTask w).orders = w.orders := by
  induction ts generalizing w with
  | nil => rfl
  | cons t rest ih => exact (ih _).trans (w.orders_dropTask t)

@[simp] theorem orders_runKept (w : World ρ) (ts : List (Task ρ)) :
    (w.runKept ts).1.orders = w.orders := by
  induction ts generalizing w with
  | nil => rfl
  | cons t rest ih =>
    have hran := w.orders_runTask t
    unfold runKept
    split
    next heq =>
      rw [heq] at hran
      exact (ih _).trans hran
    next heq =>
      rw [heq] at hran
      exact (orders_dropTasks _ rest).trans hran

@[simp] theorem orders_setPhase (w : World ρ) (id position : Nat) (phase : Phase ρ) :
    (w.setPhase id position phase).orders = w.orders :=
  w.orders_modifyFlow id fun f => f.orders_requests position fun _ => rfl

@[simp] theorem orders_resolveRequest (w : World ρ) (id position : Nat) (r : Resolution ρ) :
    (w.resolveRequest id position r).orders = w.orders := by
  unfold resolveRequest
  dsimp only
  split <;> simp

@[simp] theorem orders_finishRequest (w : World ρ) (id position : Nat) (key : String)
    (stub : Stub ρ) : (w.finishRequest id position key stub).orders = w.orders := by
  unfold finishRequest
  split <;> simp

@[simp] theorem orders_enterGate (w : World ρ) (id position : Nat) (key : String) (stub : Stub ρ) :
    (w.enterGate id position key stub).orders = w.orders := by
  unfold enterGate
  split
  next => simp
  next =>
    split
    next => exact orders_finishRequest _ id position key stub
    next => exact orders_setPhase _ id position _

@[simp] theorem orders_pollRequest (w : World ρ) (id position : Nat) :
    (w.pollRequest id position).orders = w.orders := by
  unfold pollRequest
  split
  next => rfl
  next r _ =>
    dsimp only
    split
    next =>
      have hreceived : (({ w with received := r.statement.key :: w.received } : World ρ).log
          (.received r.statement)).orders = w.orders := rfl
      split
      next => exact (orders_enterGate _ _ _ _ _).trans hreceived
      next =>
        split
        next => exact (orders_resolveRequest _ _ _ _).trans hreceived
        next =>
          split
          next => exact (orders_enterGate _ _ _ _ _).trans hreceived
          next => exact (orders_setPhase _ _ _ _).trans hreceived
    next =>
      split
      next => exact w.orders_resolveRequest _ _ _
      next => split <;> simp
    next => exact w.orders_finishRequest _ _ _ _
    next => rfl
    next => rfl

@[simp] theorem orders_release (w : World ρ) (key : String) : (w.release key).orders = w.orders := by
  have hgrant : ∀ r : Request ρ, r.grant.statement = r.statement := by
    intro r
    unfold Request.grant
    split <;> rfl
  unfold release
  split
  next => rfl
  next waiter _ =>
    have hgranted := orders_modifyFlow { w with waiters := w.waiters.eraseP (·.key = key) }
      waiter.flow fun f => f.orders_requests waiter.position hgrant
    dsimp only
    split
    next => exact (orders_wake _ _).trans hgranted
    next => exact (orders_enqueue _ _).trans hgranted

@[simp] theorem orders_dropFlow (w : World ρ) (id : Nat) : (w.dropFlow id).orders = w.orders := by
  have hdropped : (w.modifyFlow id fun flow => { flow with mode := .dropped }).orders = w.orders :=
    w.orders_modifyFlow id fun _ => rfl
  unfold dropFlow
  split
  next => rfl
  next =>
    dsimp only
    split
    next => exact hdropped
    next =>
      split
      next => exact (orders_release _ _).trans hdropped
      next => exact hdropped

@[simp] theorem orders_advance (w : World ρ) (id fuel : Nat) :
    (w.advance id fuel).orders = w.orders := by
  induction fuel generalizing w with
  | zero => rfl
  | succ fuel ih =>
    unfold advance
    split
    next => rfl
    next =>
      dsimp only
      split
      next => exact w.orders_signal id .polled
      next => rw [ih, orders_perform, orders_signal]

@[simp] theorem orders_pollFlow (w : World ρ) (id : Nat) : (w.pollFlow id).orders = w.orders := by
  unfold pollFlow
  split
  next => rfl
  next f _ =>
    have hfirst : (if f.execution.awaitsRequest then w.pollRequest id 0 else w).orders =
        w.orders := by
      split <;> simp
    split
    next => rfl
    next =>
      dsimp only
      generalize (if f.execution.awaitsRequest then w.pollRequest id 0 else w) = first at hfirst ⊢
      split
      next => rw [orders_wakeWatchers, orders_advance, hfirst]
      next => rw [orders_advance, hfirst]

@[simp] theorem orders_runJob (w : World ρ) (j : Job ρ) : (w.runJob j).orders = w.orders := by
  cases j with
  | flow id => exact w.orders_pollFlow id
  | request id position => exact w.orders_pollRequest id position
  | work task => exact w.orders_runTask task
  | watch watcher =>
    unfold runJob
    dsimp only
    split
    next => exact w.orders_hand _ _
    next => rfl

@[simp] theorem orders_runUntil (w : World ρ) (limit : Nat) (stop : World ρ → Bool) (fuel : Nat) :
    (w.runUntil limit stop fuel).orders = w.orders := by
  induction fuel generalizing w with
  | zero => rfl
  | succ fuel ih =>
    unfold runUntil
    split
    next => rfl
    next =>
      split
      next j rest _ => exact (ih _).trans (orders_runJob _ j)
      next =>
        split
        next =>
          split
          next => rw [ih, orders_fireTimers]
          next => exact w.orders_fireTimers limit
        next => exact w.orders_fireTimers limit

@[simp] theorem orders_sleepUntil (w : World ρ) (due : Nat) : (w.sleepUntil due).orders = w.orders :=
  w.orders_runUntil _ _ _

@[simp] theorem orders_waitFor (w : World ρ) (id limit : Nat) :
    (w.waitFor id limit).orders = w.orders := by
  unfold waitFor
  split <;> simp

@[simp] theorem orders_driveFlow (w : World ρ) (id : Nat) : (w.driveFlow id).orders = w.orders := by
  have hpolled : (World.pollFlow { w with driven := some id } id).orders = w.orders :=
    orders_pollFlow _ id
  unfold driveFlow
  dsimp only
  generalize World.pollFlow { w with driven := some id } id = polled at hpolled ⊢
  have hwaited : (if polled.down then polled
      else (polled.waitFor id (polled.now + patience)).pollFlow id).orders = w.orders := by
    split <;> simp [hpolled]
  exact hwaited

@[simp] theorem orders_shutDown (w : World ρ) : w.shutDown.orders = w.orders := by
  unfold shutDown orders
  dsimp only
  rw [List.map_map]
  refine List.map_congr_left fun f _ => ?_
  exact (Flow.orders_cancelTask _).trans f.orders_cancelRequests

end World

/-! A call may begin an execution; the orders of the others stay as they are. -/

namespace Scene

variable {s : Scene ρ}

/-- A submission gives its orders to a new execution. -/
theorem orders_launch (s : Scene ρ) (o : Operation String ρ) (path : Path) (name : String) :
    (s.launch o path name).1.world.orders = s.world.orders ++
      match (o.submit path s.state).1 with
      | .error _ => []
      | .ok sub => [⟨o.options.taskExecutor, sub.execution.terms, sub.statements⟩] := by
  unfold launch
  cases hs : o.submit path s.state with
  | mk submitted rest =>
    cases submitted with
    | error error => simp [mapWorld]
    | ok sub =>
      have hcancel : ∀ (b : Bool) (f : Flow ρ),
          (if b then f.cancelRequests else f).orders = f.orders := by
        intro b f
        cases b with
        | true => exact f.orders_cancelRequests
        | false => rfl
      dsimp only
      rw [World.orders_perform]
      simp only [World.orders, List.map_append, List.map_singleton, hcancel]
      simp [Flow.orders, Function.comp_def]

theorem prefix_launch (s : Scene ρ) (o : Operation String ρ) (path : Path) (name : String) :
    s.world.orders <+: (s.launch o path name).1.world.orders := by
  rw [orders_launch]
  exact List.prefix_append _ _

@[simp] theorem orders_spawn (s : Scene ρ) (id : Nat) :
    (s.spawn id).world.orders = s.world.orders := by
  unfold spawn
  split
  next => exact s.world.orders_modifyFlow id Flow.orders_cancelTask
  next => exact s.world.orders_wake id

@[simp] theorem orders_drive (s : Scene ρ) (id : Nat) :
    (s.drive id).1.world.orders = s.world.orders := by
  unfold drive
  dsimp only
  split <;> simp

@[simp] theorem orders_awaitPending (s : Scene ρ) (handle : Pending Nat ρ)
    (limit : Option Duration) : (s.awaitPending handle limit).1.world.orders = s.world.orders := by
  obtain ⟨world, hworld, heq⟩ := s.awaitPending_eq handle limit
  rw [heq]
  rcases hworld with rfl | ⟨task, time, rfl⟩
  · rfl
  · exact s.world.orders_waitFor task _

@[simp] theorem orders_awaitInContext (s : Scene ρ) (handle : Pending Nat ρ)
    (limit : Option Duration) :
    (s.awaitInContext handle limit).1.world.orders = s.world.orders := by
  unfold awaitInContext
  split
  next => rfl
  next => exact s.orders_awaitPending handle limit

@[simp] theorem orders_dropHandle (s : Scene ρ) (name : String) :
    (s.dropHandle name).world.orders = s.world.orders := by
  unfold dropHandle
  split
  next flow _ => exact s.world.orders_dropFlow flow
  next => rfl

@[simp] theorem orders_setHandle (s : Scene ρ) (name : String) (handle : Handle ρ) :
    (s.setHandle name handle).world.orders = s.world.orders :=
  s.orders_dropHandle name

theorem prefix_submit (s : Scene ρ) (o : Operation String ρ) :
    s.world.orders <+: (s.submit o).1.world.orders := by
  have hlaunched := s.prefix_launch o .caller ""
  unfold submit
  split
  next heq => rwa [heq] at hlaunched
  next heq =>
    rw [heq] at hlaunched
    split
    next => exact hlaunched
    next => rwa [orders_spawn]

theorem prefix_execute (s : Scene ρ) (o : Operation String ρ) :
    s.world.orders <+: (s.execute o).1.world.orders := by
  have hlaunched := s.prefix_launch o .caller ""
  unfold execute
  split
  next heq => rwa [heq] at hlaunched
  next heq =>
    rw [heq] at hlaunched
    rwa [orders_drive]

theorem prefix_executeDetached (s : Scene ρ) (o : Operation String ρ) (limit : Option Duration) :
    s.world.orders <+: (s.executeDetached o limit).1.world.orders := by
  have hsubmitted := s.prefix_submit o
  unfold executeDetached
  split
  next heq => rwa [heq] at hsubmitted
  next submitted handle heq =>
    rw [heq] at hsubmitted
    exact (submitted.orders_awaitInContext handle limit).symm ▸ hsubmitted

theorem prefix_callback (s : Scene ρ) (o : Operation String ρ) (name : String) :
    s.world.orders <+: (s.callback o name).1.world.orders := by
  have hlaunched := s.prefix_launch o .callback name
  unfold callback
  split
  next heq => rwa [heq] at hlaunched
  next heq =>
    rw [heq] at hlaunched
    rwa [orders_spawn]

theorem prefix_start (s : Scene ρ) (o : Operation String ρ) (name : String) :
    s.world.orders <+: (s.start o name).1.world.orders := by
  have hlaunched := s.prefix_launch o .caller ""
  unfold start
  split
  next heq => rwa [heq] at hlaunched
  next launched id heq =>
    rw [heq] at hlaunched
    have hpolled : s.world.orders <+: (launched.mapWorld (·.pollFlow id)).world.orders :=
      (launched.world.orders_pollFlow id).symm ▸ hlaunched
    dsimp only
    split
    next => exact hpolled
    next => exact hpolled
    next =>
      have hshelved := World.orders_modifyFlow (launched.world.pollFlow id) id
        (g := fun flow => { flow with mode := .shelved }) fun _ => rfl
      rw [orders_setHandle]
      exact hshelved.symm ▸ hpolled

theorem prefix_withOperation (s : Scene ρ) (id : String)
    {f : Scene ρ → Operation String ρ → Scene ρ × Answer ρ}
    (hf : ∀ o, s.world.orders <+: (f s o).1.world.orders) :
    s.world.orders <+: (s.withOperation id f).1.world.orders := by
  unfold withOperation
  split
  next o _ => exact hf o
  next => exact List.prefix_rfl

theorem orders_withPending (s : Scene ρ) (name : String)
    {f : Scene ρ → Pending Nat ρ → Scene ρ × Answer ρ}
    (hf : ∀ p, (f s p).1.world.orders = s.world.orders) :
    (s.withPending name f).1.world.orders = s.world.orders := by
  unfold withPending
  split
  next p _ => exact hf p
  next => exact s.orders_dropHandle name

theorem orders_join (s : Scene ρ) (name : String) (p : Pending Nat ρ) (limit : Option Duration) :
    (s.join name p limit).1.world.orders = s.world.orders :=
  (orders_setHandle _ name _).trans (s.orders_awaitInContext p limit)

theorem orders_block (s : Scene ρ) (name : String) (limit : Option Duration) (consume : Bool) :
    (s.block name limit consume).1.world.orders = s.world.orders := by
  refine s.orders_withPending name fun p => ?_
  have hawaited := s.orders_awaitPending p limit
  dsimp only
  split
  next => rfl
  next =>
    cases consume with
    | true => exact hawaited
    | false => exact (orders_setHandle _ name _).trans hawaited

/-- No step takes orders back. -/
theorem prefix_step (s : Scene ρ) (step : Step ρ) :
    s.world.orders <+: (s.step step).1.world.orders := by
  have hstays : ∀ {orders : List Orders}, orders = s.world.orders → s.world.orders <+: orders :=
    fun h => h ▸ List.prefix_rfl
  cases step with
  | make id blueprint modifications =>
    exact hstays (congrArg World.orders (s.world_make id blueprint modifications))
  | execute id => exact s.prefix_withOperation id s.prefix_execute
  | executeWithin id limit =>
    exact s.prefix_withOperation id fun o => s.prefix_executeDetached o (some limit)
  | executeText text => exact s.prefix_execute _
  | toStatement id =>
    refine s.prefix_withOperation id fun o => ?_
    split <;> exact List.prefix_rfl
  | options id => exact s.prefix_withOperation id fun _ => List.prefix_rfl
  | submit id name =>
    refine s.prefix_withOperation id fun o => ?_
    have hsubmitted := s.prefix_submit o
    split
    next heq => rwa [heq] at hsubmitted
    next submitted handle heq =>
      rw [heq] at hsubmitted
      exact (submitted.orders_setHandle name _).symm ▸ hsubmitted
  | start id name => exact s.prefix_withOperation id fun o => s.prefix_start o name
  | callback id name => exact s.prefix_withOperation id fun o => s.prefix_callback o name
  | isFinished name => exact hstays (s.orders_withPending name fun _ => rfl)
  | join name =>
    simp only [Scene.step]
    split
    next flow _ =>
      refine hstays ((orders_drive _ flow).trans ?_)
      exact s.world.orders_modifyFlow flow fun _ => rfl
    next => exact hstays (s.orders_withPending name fun p => s.orders_join name p none)
  | joinWithin name limit =>
    exact hstays (s.orders_withPending name fun p => s.orders_join name p (some limit))
  | onComplete name executor =>
    refine hstays (s.orders_withPending name fun p => ?_)
    dsimp only
    split <;> rfl
  | block name => exact hstays (s.orders_block name none true)
  | blockWithin name limit => exact hstays (s.orders_block name (some limit) false)
  | drop name => exact hstays (s.orders_dropHandle name)
  | advance milliseconds =>
    simp only [Scene.step, sleep]
    split
    next => exact List.prefix_rfl
    next => exact hstays (s.world.orders_sleepUntil _)
  | release key => exact hstays (s.world.orders_release key)
  | runKept =>
    rw [step_runKept]
    exact hstays (World.orders_runKept _ _)
  | dropKept => exact hstays (World.orders_dropTasks _ _)
  | setState text => exact List.prefix_rfl
  | setDefaults options => exact List.prefix_rfl
  | describeTemplate => exact List.prefix_rfl
  | translate error => exact List.prefix_rfl
  | shutDown => exact hstays s.world.orders_shutDown

end Scene
end CqlOperations.Simulation
