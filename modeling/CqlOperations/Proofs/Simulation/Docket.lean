import CqlOperations.Proofs.Simulation.Lives
import CqlOperations.Proofs.Simulation.Requests

/-! Where a world keeps the callbacks that were registered under a name: with a watcher, which is
about to look for the result or sleeps until it is woken, and then with a task, which a pool or an
executor keeps until it runs. Executions and requests get on without any of these. -/
namespace CqlOperations

variable {ρ : Type}

theorem Execution.result?_acceptProcessed (x : Execution ρ) (r : Result ρ) :
    (x.acceptProcessed r).result? = x.result? := by
  unfold acceptProcessed
  split
  next hs => simp only [result?, hs]
  next => rfl

/-- Only the request of a single statement takes its execution along when it panics. -/
theorem Execution.result?_resolve {x : Execution ρ} (h : x.awaitsRequest = false) (position : Nat)
    (r : Resolution ρ) : (x.resolve position r).result? = x.result? := by
  unfold resolve
  split
  next hs => simp [awaitsRequest, hs] at h
  next hs => simp only [result?, hs]
  next => rfl

/-- Cancelling the requests of a fan-out does not end it. -/
theorem Execution.resolve_cancelled {x : Execution ρ} (h : x.awaitsRequest = false)
    (positions : List Nat) :
    (positions.foldl (fun x i => x.resolve i .cancelled) x).awaitsRequest = false ∧
      (positions.foldl (fun x i => x.resolve i .cancelled) x).result? = x.result? := by
  induction positions generalizing x with
  | nil => exact ⟨h, rfl⟩
  | cons i rest ih =>
    have hcalm : (x.resolve i .cancelled).awaitsRequest = false :=
      awaitsRequest_handle h (.resolved i .cancelled)
    obtain ⟨hawaits, hresult⟩ := ih hcalm
    exact ⟨hawaits, hresult.trans (result?_resolve h i .cancelled)⟩

namespace Simulation

/-- Requests that run on tasks of their own do not hold up the execution like one on its task. -/
def Flow.Calm (f : Flow ρ) : Prop :=
  f.fanOut = true → f.execution.awaitsRequest = false

theorem Flow.Calm.cancelRequests {f : Flow ρ} (h : f.Calm) :
    f.cancelRequests.Calm ∧ f.cancelRequests.joined? = f.joined? := by
  unfold Flow.cancelRequests
  split
  next hfan =>
    obtain ⟨hawaits, hresult⟩ :=
      Execution.resolve_cancelled (h hfan) (List.range f.requests.length)
    refine ⟨fun _ => hawaits, ?_⟩
    simp only [Flow.joined?, hresult]
  next => exact ⟨h, rfl⟩

theorem Flow.Calm.cancelTask {f : Flow ρ} (h : f.Calm) : f.cancelTask.Calm := by
  unfold Flow.cancelTask
  split
  next => exact h
  next => exact h

def Job.watcher? (name : String) : Job ρ → Option (Watcher ρ)
  | .watch watcher => if watcher.name = name then some watcher else none
  | _ => none

/-- What a task calls the callbacks of this name with. -/
def Task.completion? (name : String) : Task ρ → Option (Result ρ)
  | .complete handle result => if handle = name then some result else none
  | _ => none

def Job.completion? (name : String) : Job ρ → Option (Result ρ)
  | .work task => task.completion? name
  | _ => none

def Event.completion? (name : String) : Event ρ → Option (Result ρ)
  | .completion handle result => if handle = name then some result else none
  | _ => none

/-- Watchers that are queued or asleep, and results on their way in a pool or with an executor. -/
structure Docket (ρ : Type) where
  queued : List (Watcher ρ) := []
  asleep : List (Watcher ρ) := []
  pooled : List (Result ρ) := []
  kept : List (Result ρ) := []

namespace World

/-- Whatever there is of this name. -/
def docket (w : World ρ) (name : String) : Docket ρ where
  queued := w.queue.filterMap (Job.watcher? name)
  asleep := w.watchers.filter (·.name = name)
  pooled := w.queue.filterMap (Job.completion? name)
  kept := w.kept.filterMap (Task.completion? name)

/-- What callbacks of this name were called with. A success is for one of them and an error for the
other. -/
def called (w : World ρ) (name : String) : List (Result ρ) :=
  w.events.filterMap (Event.completion? name)

/-- What a handle gives whoever polls it now. -/
def known? (w : World ρ) (p : Pending Nat ρ) : Option (Result ρ) :=
  (p.poll w.joined?).2

/-- Only requests of a fan-out have jobs of their own, and only jobs of executions and requests have
to wait for their time. -/
structure Fit (w : World ρ) : Prop where
  calm : ∀ f ∈ w.flows, f.Calm
  requests : ∀ id position, .request id position ∈ w.jobs →
    ∃ f, w.flows[id]? = some f ∧ f.fanOut = true
  timers : ∀ t ∈ w.timers, (∃ id, t.job = .flow id) ∨ ∃ id position, t.job = .request id position

theorem Fit.enqueue {w : World ρ} (h : w.Fit) {j : Job ρ}
    (hr : ∀ id position, j = .request id position →
      ∃ f, w.flows[id]? = some f ∧ f.fanOut = true) : (w.enqueue j).Fit where
  calm := h.calm
  requests := by
    intro id position hm
    rcases List.mem_append.mp hm with hm | hm
    · rcases List.mem_append.mp hm with hm | hm
      · exact h.requests id position (List.mem_append_left _ hm)
      · exact hr id position (List.mem_singleton.mp hm).symm
    · exact h.requests id position (List.mem_append_right _ hm)
  timers := h.timers

theorem docket_enqueue (w : World ρ) (j : Job ρ) (name : String) :
    (w.enqueue j).docket name = { w.docket name with
      queued := (w.docket name).queued ++ (j.watcher? name).toList
      pooled := (w.docket name).pooled ++ (j.completion? name).toList } := by
  simp only [docket, World.enqueue, List.filterMap_append]
  cases hw : j.watcher? name <;> cases hc : j.completion? name <;> simp [hw, hc]

/-- What executions and requests do to a world. The docket of the name stays as it is, but its
callbacks may be called with `rs`, and at most the execution `touched` comes to its end. -/
structure Works (name : String) (touched : Option Nat) (rs : List (Result ρ)) (w w' : World ρ) :
    Prop where
  docket : w'.docket name = w.docket name
  called : w'.called name = w.called name ++ rs
  down : w'.down = w.down
  length : w'.flows.length = w.flows.length
  joined : ∀ id, touched ≠ some id → w'.joined? id = w.joined? id
  fit : w.Fit → w'.Fit

namespace Works

variable {name : String} {touched : Option Nat} {rs rs' : List (Result ρ)}
  {w middle w' : World ρ}

/-- Nothing that matters here has changed. -/
theorem of_eq (hf : w'.flows = w.flows) (hq : w'.queue = w.queue) (ht : w'.timers = w.timers)
    (hw : w'.watchers = w.watchers) (hk : w'.kept = w.kept) (he : w'.events = w.events)
    (hd : w'.down = w.down) : Works name touched [] w w' where
  docket := by simp only [World.docket, hq, hw, hk]
  called := by simp only [World.called, he, List.append_nil]
  down := hd
  length := by rw [hf]
  joined id _ := by simp only [joined?_eq, hf]
  fit h :=
    { calm := hf ▸ h.calm
      requests := by
        unfold jobs
        rw [hq, ht, hf]
        exact h.requests
      timers := ht ▸ h.timers }

theorem refl (w : World ρ) : Works name touched [] w w :=
  of_eq rfl rfl rfl rfl rfl rfl rfl

theorem trans (h : Works name touched rs w middle) (h' : Works name touched rs' middle w') :
    Works name touched (rs ++ rs') w w' where
  docket := h'.docket.trans h.docket
  called := by rw [h'.called, h.called, List.append_assoc]
  down := h'.down.trans h.down
  length := h'.length.trans h.length
  joined id hid := (h'.joined id hid).trans (h.joined id hid)
  fit hf := h'.fit (h.fit hf)

theorem log (w : World ρ) (e : Event ρ) (he : (e.completion? name).toList = rs) :
    Works name touched rs w (w.log e) where
  docket := rfl
  called := by
    simp only [World.called, World.log, List.filterMap_append, ← he]
    cases hc : e.completion? name <;> simp [hc]
  down := rfl
  length := rfl
  joined _ _ := rfl
  fit h := ⟨h.calm, h.requests, h.timers⟩

/-- One execution changes; it comes to its end only if it is the one that may. -/
theorem modifyFlow (w : World ρ) (id : Nat) {g : Flow ρ → Flow ρ}
    (hfan : ∀ f, (g f).fanOut = f.fanOut)
    (hcalm : ∀ f, f.execution.awaitsRequest = false → (g f).execution.awaitsRequest = false)
    (hjoined : touched = some id ∨ ∀ f, w.flows[id]? = some f → (g f).joined? = f.joined?) :
    Works name touched [] w (w.modifyFlow id g) where
  docket := rfl
  called := (List.append_nil _).symm
  down := rfl
  length := List.length_modify ..
  joined other hne := by
    simp only [joined?_eq, World.modifyFlow, List.getElem?_modify]
    by_cases ho : id = other
    · subst ho
      rcases hjoined with ht | hj
      · exact absurd ht hne
      · cases hf : w.flows[id]? with
        | none => rfl
        | some f => simpa using hj f hf
    · simp [ho]
  fit h :=
    { calm := by
        intro f hf hfanOut
        obtain ⟨i, hi⟩ := List.mem_iff_getElem?.mp hf
        simp only [World.modifyFlow, List.getElem?_modify] at hi
        obtain ⟨old, hold, rfl⟩ := Option.map_eq_some_iff.mp hi
        by_cases ho : id = i
        · rw [if_pos ho] at hfanOut ⊢
          exact hcalm old (h.calm old (List.mem_of_getElem? hold) ((hfan old) ▸ hfanOut))
        · rw [if_neg ho] at hfanOut ⊢
          exact h.calm old (List.mem_of_getElem? hold) hfanOut
      requests := by
        intro other position hj
        obtain ⟨f, hf, hfanOut⟩ := h.requests other position hj
        refine ⟨if id = other then g f else f, ?_, ?_⟩
        · simp only [World.modifyFlow, List.getElem?_modify, hf]
          rfl
        · split
          next => exact (hfan f).trans hfanOut
          next => exact hfanOut
      timers := h.timers }

theorem cancelTask (w : World ρ) (id : Nat) :
    Works name (some id) [] w (w.modifyFlow id Flow.cancelTask) := by
  apply modifyFlow w id
  · intro f
    unfold Flow.cancelTask
    split <;> rfl
  · intro f hf
    unfold Flow.cancelTask
    split <;> exact hf
  · exact .inl rfl

/-- A signal ends at most the execution that it is for. -/
theorem signal (w : World ρ) (id : Nat) (s : Signal ρ)
    (hs : touched = some id ∨ ∀ f, w.flows[id]? = some f →
      (f.execution.handle s).1.result? = f.execution.result?) :
    Works name touched [] w (w.signal id s).1 := by
  unfold World.signal
  split
  next => exact refl w
  next f hf =>
    have hmodified : Works name touched [] w (w.modifyFlow id fun f =>
        { f with execution := (f.execution.handle s).1 }) := by
      apply modifyFlow w id
      · exact fun _ => rfl
      · exact fun f hawaits => Execution.awaitsRequest_handle hawaits s
      · rcases hs with ht | hsame
        · exact .inl ht
        · refine .inr fun f hf => ?_
          simp only [Flow.joined?, hsame f hf]
    unfold World.modifyFlow at hmodified
    rwa [modify_eq_set hf] at hmodified

theorem note (w : World ρ) (id : Nat) (s : Signal ρ)
    (hs : touched = some id ∨ ∀ f, w.flows[id]? = some f →
      (f.execution.handle s).1.result? = f.execution.result?) :
    Works name touched [] w (w.note id s) :=
  signal w id s hs

theorem enqueue (w : World ρ) {j : Job ρ} (hw : j.watcher? name = none)
    (hc : j.completion? name = none)
    (hr : ∀ id position, j = .request id position →
      ∃ f, w.flows[id]? = some f ∧ f.fanOut = true) :
    Works name touched [] w (w.enqueue j) where
  docket := by simp [docket_enqueue, hw, hc]
  called := (List.append_nil _).symm
  down := rfl
  length := rfl
  joined _ _ := rfl
  fit h := h.enqueue hr

theorem wake (w : World ρ) (id : Nat) : Works name touched [] w (w.wake id) := by
  unfold World.wake
  split
  next =>
    split
    next => exact enqueue w rfl rfl nofun
    next => exact refl w
  next => exact refl w

theorem note_processed (w : World ρ) (id : Nat) (r : Result ρ) :
    Works name touched [] w (w.note id (.processed r)) :=
  note w id _ (.inr fun f _ => f.execution.result?_acceptProcessed r)

theorem note_dropped (w : World ρ) (id : Nat) :
    Works name touched [] w (w.note id .dropped) :=
  note w id _ (.inr fun f _ => f.execution.result?_acceptProcessed _)

theorem runTask (w : World ρ) (t : Task ρ) :
    Works name touched (t.completion? name).toList w (w.runTask t).1 := by
  cases t with
  | process id processor input =>
    have hlog : Works name touched [] w (w.log (.transform processor.label)) := log w _ rfl
    unfold World.runTask
    dsimp only
    split
    next => exact hlog.trans ((note_processed _ id _).trans (wake _ id))
    next => exact hlog.trans ((note_dropped _ id).trans (wake _ id))
  | report report => exact log w _ rfl
  | deliver handle output => exact log w _ rfl
  | complete handle result => exact log w _ rfl

theorem dropTask (w : World ρ) (t : Task ρ) : Works name touched [] w (w.dropTask t) := by
  cases t with
  | process id processor input => exact (note_dropped w id).trans (wake _ id)
  | report report => exact refl w
  | deliver handle output => exact refl w
  | complete handle result => exact refl w

theorem dropTasks (w : World ρ) (ts : List (Task ρ)) :
    Works name touched [] w (ts.foldl World.dropTask w) := by
  induction ts generalizing w with
  | nil => exact refl w
  | cons t rest ih => exact (dropTask w t).trans (ih _)

theorem keep (w : World ρ) {t : Task ρ} (ht : t.completion? name = none) :
    Works name touched [] w { w with kept := w.kept ++ [t] } where
  docket := by simp [World.docket, ht]
  called := (List.append_nil _).symm
  down := rfl
  length := rfl
  joined _ _ := rfl
  fit h := ⟨h.calm, h.requests, h.timers⟩

/-- A watcher of other callbacks. -/
theorem sleep (w : World ρ) {u : Watcher ρ} (hu : u.name ≠ name) :
    Works name touched [] w { w with watchers := w.watchers ++ [u] } where
  docket := by simp [World.docket, hu]
  called := (List.append_nil _).symm
  down := rfl
  length := rfl
  joined _ _ := rfl
  fit h := ⟨h.calm, h.requests, h.timers⟩

/-- A task that is not for these callbacks. -/
theorem hand (w : World ρ) {t : Task ρ} (ht : t.completion? name = none) (executor : Executor) :
    Works name touched [] w (w.hand t executor).1 := by
  have hrun : ∀ w : World ρ, Works name touched [] w (w.runTask t).1 := by
    intro w
    have h : Works name touched (t.completion? name).toList w (w.runTask t).1 := runTask w t
    rwa [ht] at h
  cases executor with
  | inline => exact hrun w
  | blockingPool runtime =>
    unfold World.hand
    by_cases hd : w.down
    · simp only [hd, if_true]
      exact dropTask w t
    · simp only [hd]
      exact enqueue w rfl ht nofun
  | logged executor discipline =>
    have hlog : Works name touched [] w (w.log (.executor executor)) := log w _ rfl
    cases discipline with
    | runs => exact hlog.trans (hrun _)
    | drops => exact hlog.trans (dropTask _ t)
    | keeps => exact hlog.trans (keep _ ht)

theorem perform (w : World ρ) (id : Nat) (executor : Executor) (handle : String)
    (actions : List (Action ρ)) (hid : touched = some id) :
    Works name touched [] w (w.perform id executor handle actions) := by
  induction actions generalizing w with
  | nil => exact refl w
  | cons action rest ih =>
    cases action with
    | observe text =>
      have hlog : Works name touched [] w (w.log (.submission (Text.maskTaskNumbers text))) :=
        log w _ rfl
      exact hlog.trans (ih _)
    | _ =>
      simp only [World.perform]
      split
      next => exact (hand w rfl executor).trans (ih _)
      next => exact (hand w rfl executor).trans (note _ id _ (.inl hid))

/-- Kept tasks run in order, and call the callbacks they are for, unless one of them panics. -/
theorem exists_runKept (w : World ρ) (ts : List (Task ρ)) :
    ∃ rs, Works name touched rs w (w.runKept ts).1 ∧ rs <+: ts.filterMap (Task.completion? name) ∧
      ((w.runKept ts).2 = none → rs = ts.filterMap (Task.completion? name)) := by
  induction ts generalizing w with
  | nil => exact ⟨[], refl w, List.prefix_rfl, fun _ => rfl⟩
  | cons t rest ih =>
    have hrun : Works name touched (t.completion? name).toList w (w.runTask t).1 := runTask w t
    have hcons : (t :: rest).filterMap (Task.completion? name) =
        (t.completion? name).toList ++ rest.filterMap (Task.completion? name) := by
      cases ht : t.completion? name with
      | none => simp [ht]
      | some r => simp [ht]
    rw [hcons]
    unfold World.runKept
    cases hr : w.runTask t with
    | mk after panic? =>
      rw [hr] at hrun
      cases panic? with
      | none =>
        obtain ⟨rs, hworks, hinitial, hall⟩ := ih after
        refine ⟨(t.completion? name).toList ++ rs, hrun.trans hworks, ?_, ?_⟩
        · exact (List.prefix_append_right_inj _).mpr hinitial
        · intro hnone
          rw [hall hnone]
      | some message =>
        have hdropped := hrun.trans (dropTasks after rest)
        rw [List.append_nil] at hdropped
        exact ⟨_, hdropped, List.prefix_append _ _, nofun⟩

end Works

/-- A request of the execution `id` may end: the execution is the one that may end with it, or it
does not wait for a request of its own. -/
def Admits (w : World ρ) (touched : Option Nat) (id : Nat) : Prop :=
  touched = some id ∨ ∀ f, w.flows[id]? = some f → f.execution.awaitsRequest = false

namespace Works

variable {name key : String} {touched : Option Nat} {w : World ρ} {id position : Nat}

theorem setPhase (w : World ρ) (id position : Nat) (phase : Phase ρ) :
    Works name touched [] w (w.setPhase id position phase) :=
  modifyFlow w id (fun _ => rfl) (fun _ h => h) (.inr fun _ _ => rfl)

theorem resolveRequest (h : w.Admits touched id) (r : Resolution ρ) :
    Works name touched [] w (w.resolveRequest id position r) := by
  have hover : Works name touched [] w (w.setPhase id position .over) := setPhase w id position _
  have hnote : Works name touched [] (w.setPhase id position .over)
      ((w.setPhase id position .over).note id (.resolved position r)) := by
    apply note
    rcases h with ht | hcalm
    · exact .inl ht
    · refine .inr fun f hf => ?_
      rw [World.setPhase, World.modifyFlow, List.getElem?_modify_eq] at hf
      obtain ⟨old, hold, rfl⟩ := Option.map_eq_some_iff.mp hf
      exact Execution.result?_resolve (hcalm old hold) position r
  unfold World.resolveRequest
  dsimp only
  split
  next => exact (hover.trans hnote).trans (wake _ id)
  next => exact hover.trans hnote

theorem finishRequest (h : w.Admits touched id) (stub : Stub ρ) :
    Works name touched [] w (w.finishRequest id position key stub) := by
  have hlog : Works name touched [] w (w.log (.done key)) := log w _ rfl
  unfold World.finishRequest
  split
  next => exact resolveRequest h _
  next =>
    refine hlog.trans (resolveRequest ?_ _)
    exact h

theorem enterGate (h : w.Admits touched id) (stub : Stub ρ) :
    Works name touched [] w (w.enterGate id position key stub) := by
  unfold World.enterGate
  split
  next => exact finishRequest h stub
  next =>
    split
    next =>
      have htaken : Works name touched [] w { w with permits := w.permits.erase key } :=
        of_eq rfl rfl rfl rfl rfl rfl rfl
      refine htaken.trans (finishRequest ?_ stub)
      exact h
    next =>
      have hqueued : Works name touched [] w
          { w with waiters := w.waiters ++ [(⟨key, id, position⟩ : Waiter)] } :=
        of_eq rfl rfl rfl rfl rfl rfl rfl
      exact hqueued.trans (setPhase _ id position _)

theorem addTimer (w : World ρ) (due id position : Nat) :
    Works name touched [] w
      { w with timers := w.timers ++ [(⟨due, w.requestJob id position⟩ : Timer ρ)] } where
  docket := rfl
  called := (List.append_nil _).symm
  down := rfl
  length := rfl
  joined _ _ := rfl
  fit h :=
    { calm := h.calm
      requests := by
        intro other place hm
        simp only [jobs, List.map_append, ← List.append_assoc] at hm
        rcases List.mem_append.mp hm with hm | hm
        · exact h.requests other place hm
        · exact Tracks.exists_of_requestJob (List.mem_singleton.mp hm).symm
      timers := by
        intro t ht
        rcases List.mem_append.mp ht with ht | ht
        · exact h.timers t ht
        · rw [List.mem_singleton.mp ht]
          rcases Tracks.requestJob_eq w id position with hj | ⟨hj, -⟩
          · exact .inl ⟨id, hj⟩
          · exact .inr ⟨id, position, hj⟩ }

theorem pollRequest (h : w.Admits touched id) :
    Works name touched [] w (w.pollRequest id position) := by
  unfold World.pollRequest
  split
  next => exact refl w
  next request _ =>
    dsimp only
    split
    next =>
      have hcounted : Works name touched [] w
          { w with received := request.statement.key :: w.received } :=
        of_eq rfl rfl rfl rfl rfl rfl rfl
      have hreceived : Works name touched [] w
          ({ w with received := request.statement.key :: w.received }.log
            (.received request.statement)) := hcounted.trans (log _ _ rfl)
      have hadmits : World.Admits ({ w with received := request.statement.key :: w.received }.log
          (.received request.statement)) touched id := h
      generalize { w with received := request.statement.key :: w.received }.log
        (.received request.statement) = received at hreceived hadmits ⊢
      split
      next => exact hreceived.trans (enterGate hadmits _)
      next delay _ =>
        split
        next => exact hreceived.trans (resolveRequest hadmits _)
        next =>
          split
          next => exact hreceived.trans (enterGate hadmits _)
          next =>
            exact hreceived.trans ((addTimer _ _ id position).trans (setPhase _ id position _))
    next =>
      split
      next => exact resolveRequest h _
      next =>
        split
        next => exact refl w
        next => exact enterGate h _
    next => exact finishRequest h _
    next => exact refl w
    next => exact refl w

/-- The permit goes to a request, which only has to be polled again. -/
theorem release (w : World ρ) (key : String) : Works name touched [] w (w.release key) := by
  unfold World.release
  split
  next => exact of_eq rfl rfl rfl rfl rfl rfl rfl
  next waiter _ =>
    have htaken : Works name touched [] w
        { w with waiters := w.waiters.eraseP (·.key = key) } :=
      of_eq rfl rfl rfl rfl rfl rfl rfl
    have hgranted : Works name touched [] w
        ({ w with waiters := w.waiters.eraseP (·.key = key) }.modifyFlow waiter.flow fun flow =>
          { flow with requests := flow.requests.modify waiter.position Request.grant }) :=
      htaken.trans (modifyFlow _ _ (fun _ => rfl) (fun _ hcalm => hcalm) (.inr fun _ _ => rfl))
    dsimp only
    generalize World.modifyFlow _ waiter.flow _ = granted at hgranted ⊢
    split
    next => exact hgranted.trans (wake _ _)
    next =>
      refine hgranted.trans (enqueue _ ?_ ?_ fun _ _ => Tracks.exists_of_requestJob)
      · rcases Tracks.requestJob_eq granted waiter.flow waiter.position with hj | ⟨hj, -⟩ <;>
          rw [hj] <;> rfl
      · rcases Tracks.requestJob_eq granted waiter.flow waiter.position with hj | ⟨hj, -⟩ <;>
          rw [hj] <;> rfl

/-- An execution that is let go of may have been cancelled before. -/
theorem dropFlow (w : World ρ) (hid : touched = some id) :
    Works name touched [] w (w.dropFlow id) := by
  unfold World.dropFlow
  split
  next => exact refl w
  next flow _ =>
    have hdropped : Works name touched [] w
        (w.modifyFlow id fun flow => { flow with mode := .dropped }) :=
      modifyFlow w id (fun _ => rfl) (fun _ h => h) (.inl hid)
    dsimp only
    split
    next => exact hdropped
    next =>
      have hleft : Works name touched [] w
          { w.modifyFlow id (fun flow => { flow with mode := .dropped }) with
            waiters := (w.modifyFlow id fun flow => { flow with mode := .dropped }).waiters.filter
              (·.flow ≠ id) } :=
        hdropped.trans (of_eq rfl rfl rfl rfl rfl rfl rfl)
      split
      next => exact hleft.trans (release _ _)
      next => exact hleft

theorem advance (w : World ρ) (hid : touched = some id) (fuel : Nat) :
    Works name touched [] w (w.advance id fuel) := by
  induction fuel generalizing w with
  | zero => exact refl w
  | succ fuel ih =>
    unfold World.advance
    split
    next => exact refl w
    next flow _ =>
      have hpolled : Works name touched [] w (w.signal id .polled).1 := signal w id _ (.inl hid)
      dsimp only
      split
      next => exact hpolled
      next => exact (hpolled.trans (perform _ id _ _ _ hid)).trans (ih _)

end Works
end World
end Simulation
end CqlOperations
