import CqlOperations.Proofs.Simulation.Registration
import CqlOperations.Proofs.Simulation.Waiting

/-! Callbacks get what awaiting their handle gives. This is so for every handle that a program has
come by, whatever it does before and after it registers them, and whatever becomes of the task. -/
namespace CqlOperations

/-- A wait that has not found anything goes on with the same handle. -/
theorem Pending.wait_snd {τ ρ : Type} (p : Pending τ ρ) (before after : τ → Option (Result ρ)) :
    (p.wait before after).2 = ((p.poll before).2.or (p.poll after).2) := by
  cases p with
  | ready r => rfl
  | consumed => rfl
  | inFlight task =>
    simp only [wait, poll]
    cases hb : before task <;> simp

namespace Simulation

variable {ρ : Type}

namespace World

variable {w : World ρ} {p : Pending Nat ρ} {r : Result ρ}

/-- What awaiting a handle gives: its own result, the refusal to give a result twice, or what the
task came to, be that a value, an error, a panic or a cancellation. -/
theorem known?_eq_some_iff : w.known? p = some r ↔
    p = .ready r ∨ (p = .consumed ∧ r = .error (.usage .resultAlreadyTaken)) ∨
      ∃ task f, p = .inFlight task ∧ w.flows[task]? = some f ∧ f.Ends r := by
  cases p with
  | ready result => simp [known?, Pending.poll]
  | consumed => simp [known?, Pending.poll, eq_comm]
  | inFlight task =>
    simp only [known?, Pending.poll_inFlight, joined?_eq, Option.bind_eq_some_iff,
      Flow.joined?_eq_some_iff]
    simp

/-- A wait gives what is known at its end, if what is known at its beginning is known then. -/
theorem wait_eq_known? {w' : World ρ} (h : ∀ r, w.known? p = some r → w'.known? p = some r) :
    (p.wait w.joined? w'.joined?).2 = w'.known? p := by
  rw [Pending.wait_snd]
  change (w.known? p).or (w'.known? p) = w'.known? p
  cases hk : w.known? p with
  | none => rfl
  | some r => rw [h r hk, Option.some_or]

/-- No watcher and no task is on its way that could call these callbacks. -/
def Clear (w : World ρ) (name : String) : Prop :=
  (w.docket name).queued = [] ∧ (w.docket name).pooled = [] ∧ (w.docket name).kept = []

/-! Nothing but its end makes a runtime go away. -/

theorem down_runTask (w : World ρ) (t : Task ρ) : (w.runTask t).1.down = w.down :=
  (Works.runTask w t : Works "" none _ w _).down

theorem down_hand (w : World ρ) (t : Task ρ) (executor : Executor) :
    (w.hand t executor).1.down = w.down := by
  have hdropped : ∀ w : World ρ, (w.dropTask t).down = w.down := fun w =>
    (Works.dropTask w t : Works "" none [] w _).down
  cases executor with
  | inline => exact down_runTask w t
  | blockingPool runtime =>
    unfold World.hand
    dsimp only
    split
    next => exact hdropped w
    next => rfl
  | logged name discipline =>
    cases discipline with
    | runs => exact down_runTask _ t
    | drops => exact hdropped _
    | keeps => rfl

theorem down_runJob (w : World ρ) (j : Job ρ) : (w.runJob j).down = w.down := by
  cases j with
  | flow id =>
    simp only [runJob, pollFlow]
    split
    next => rfl
    next f _ =>
      split
      next => rfl
      next =>
        have hsent : (if f.execution.awaitsRequest then w.pollRequest id 0 else w).down =
            w.down := by
          split
          next => exact (Works.pollRequest (.inl rfl) : Works "" (some id) [] w _).down
          next => rfl
        generalize (if f.execution.awaitsRequest then w.pollRequest id 0 else w) = sent at hsent ⊢
        have hadvanced :=
          (Works.advance sent rfl (2 * f.layers + 4) : Works "" (some id) [] sent _).down
        split
        next => exact hadvanced.trans hsent
        next => exact hadvanced.trans hsent
  | request id position =>
    exact (Works.pollRequest (.inl rfl) : Works "" (some id) [] w _).down
  | work t => exact down_runTask w t
  | watch u =>
    unfold World.runJob
    dsimp only
    split
    next => exact down_hand w _ u.executor
    next => rfl

theorem down_tick (w : World ρ) : w.tick.down = w.down := by
  unfold tick
  split
  next job rest _ => exact down_runJob _ job
  next => split <;> rfl

theorem down_iterate_tick (w : World ρ) (n : Nat) : (tick^[n] w).down = w.down := by
  induction n generalizing w with
  | zero => rfl
  | succ n ih => rw [Function.iterate_succ_apply, ih, down_tick]

theorem orders_tick (w : World ρ) : w.tick.orders = w.orders := by
  unfold tick
  split
  next job rest _ => exact orders_runJob _ job
  next =>
    split
    next due _ => exact w.orders_fireTimers due
    next => rfl

variable {v : Watcher ρ} {early : Option (Result ρ)} {lost : Prop} {place : Place ρ}

theorem Holds.iterate_tick (h : w.Holds v early lost place) (n : Nat) :
    (World.tick^[n] w).Follows v early lost place := by
  induction n generalizing w place with
  | zero => exact h.follows
  | succ n ih =>
    rw [Function.iterate_succ_apply]
    exact h.tick.bind fun _ hh => ih hh

theorem At.length_called_le (h : w.At v place) : (w.called v.name).length ≤ 1 := by
  rw [h.called]
  cases place <;> simp [Place.calls]

/-- Only an executor that keeps its tasks keeps theirs. -/
theorem Holds.kept_eq_nil (h : w.Holds v early lost place) (hd : v.executor.discipline ≠ .keeps) :
    (w.docket v.name).kept = [] := by
  rw [h.docket]
  refine Place.kept_eq_nil fun r hp => ?_
  subst hp
  obtain ⟨-, name, he⟩ := h.apt
  exact hd (by rw [he, Executor.discipline])

theorem Holds.known?_of_called (h : w.Holds v early lost place) (hr : r ∈ w.called v.name) :
    w.known? v.handle = some r := by
  rw [h.called] at hr
  cases place with
  | called result =>
    rw [List.mem_singleton.mp hr]
    exact h.apt.1
  | _ => cases hr

theorem Holds.called_of_drops (h : w.Holds v early lost place)
    (hd : v.executor.discipline = .drops) : w.called v.name = [] := by
  rw [h.called]
  cases place with
  | called r => exact absurd hd h.apt.2
  | _ => rfl

/-- Callbacks for whom no job is left have been called if there is anything to call them with, or
their executor has kept that. -/
theorem Holds.called_append_kept (h : w.Holds v early lost place)
    (hq : (w.docket v.name).queued = []) (hp : (w.docket v.name).pooled = [])
    (hup : w.down = false) (hd : v.executor.discipline ≠ .drops) (hl : ¬ lost) :
    w.called v.name ++ (w.docket v.name).kept = (w.known? v.handle).toList := by
  rw [h.docket] at hq hp ⊢
  rw [h.called]
  cases place with
  | queued => cases hq
  | asleep =>
    have hk : w.known? v.handle = none := h.apt
    rw [hk]
    rfl
  | pooled r => cases hp
  | kept r =>
    rw [h.apt.1]
    rfl
  | called r =>
    rw [h.apt.1]
    rfl
  | gone =>
    rcases h.apt with hdrops | hdown | hlost
    · exact absurd hdrops hd
    · rw [hup] at hdown
      cases hdown
    · exact absurd hlost hl

/-- A world that is left to itself calls callbacks if there is anything to call them with, or hands
that to an executor that keeps it, before it comes to rest. -/
theorem Holds.exists_tick (h : w.Holds v early lost place) (hup : w.down = false)
    (hd : v.executor.discipline ≠ .drops) (hl : ¬ lost) :
    ∃ n place', (World.tick^[n] w).AtRest ∧ (World.tick^[n] w).Holds v early lost place' ∧
      (World.tick^[n] w).called v.name ++ ((World.tick^[n] w).docket v.name).kept =
        ((World.tick^[n] w).known? v.handle).toList := by
  obtain ⟨n, hrest⟩ := exists_atRest w
  obtain ⟨place', -, hh⟩ := h.iterate_tick n
  refine ⟨n, place', hrest, hh, ?_⟩
  refine hh.called_append_kept ?_ ?_ ((down_iterate_tick w n).trans hup) hd hl
  · simp only [World.docket, hrest.1, List.filterMap_nil]
  · simp only [World.docket, hrest.1, List.filterMap_nil]

/-- An executor that runs what it kept calls the callbacks with that. -/
theorem called_runKept (w : World ρ) (name : String)
    (hp : (runKept { w with kept := [] } w.kept).2 = none) :
    (runKept { w with kept := [] } w.kept).1.called name =
      w.called name ++ (w.docket name).kept := by
  have hran : ∃ rs, Works name none rs { w with kept := [] }
      (runKept { w with kept := [] } w.kept).1 ∧ rs <+: (w.docket name).kept ∧
      ((runKept { w with kept := [] } w.kept).2 = none → rs = (w.docket name).kept) :=
    Works.exists_runKept _ _
  obtain ⟨rs, hw, -, hall⟩ := hran
  rw [hw.called, hall hp]
  rfl

end World

/-- What happens while a program runs: its calls, what the runtime does by itself, and tasks that
are aborted from outside. -/
inductive Deed (ρ : Type) where
  | call (step : Step ρ)
  | settle
  | tick
  | abort (task : Nat)

/-- Others are registered under this name. -/
def Deed.Registers (name : String) : Deed ρ → Prop
  | .call step => step.Registers name
  | _ => False

namespace Scene

/-- A runtime that is gone does nothing by itself. -/
def deed (s : Scene ρ) : Deed ρ → Scene ρ
  | .call step => (s.step step).1
  | .settle => if s.world.down then s else s.mapWorld World.settle
  | .tick => if s.world.down then s else s.mapWorld World.tick
  | .abort task => s.mapWorld (·.abort task)

def deeds (s : Scene ρ) (ds : List (Deed ρ)) : Scene ρ :=
  ds.foldl deed s

/-- On the way an executor lets go of a task for these callbacks. -/
def LosesIn (s : Scene ρ) (name : String) (ds : List (Deed ρ)) : Prop :=
  ∃ before step after, ds = before ++ .call step :: after ∧ (s.deeds before).Loses name step

variable {v : Watcher ρ} {early : Option (Result ρ)} {lost : Prop} {place : Place ρ}
  {s : Scene ρ} {setup : Setup ρ} {name : String} {p : Pending Nat ρ}

theorem Minds.deed (h : s.Minds v early lost place) {d : Deed ρ} (hr : ¬ d.Registers v.name)
    (hl : ∀ step, d = .call step → s.Loses v.name step → lost) :
    (s.deed d).Follows v early lost place := by
  cases d with
  | call step => exact h.step hr (hl step rfl)
  | settle =>
    simp only [Scene.deed]
    split
    next => exact h.follows
    next =>
      exact h.of_follows (h.holds.runUntil _ _ _) (World.orders_runUntil _ _ _ _)
        (List.Subset.refl _)
  | tick =>
    simp only [Scene.deed]
    split
    next => exact h.follows
    next => exact h.of_follows h.holds.tick s.world.orders_tick (List.Subset.refl _)
  | abort task =>
    refine h.of_follows (h.holds.abort task) ?_ (List.Subset.refl _)
    exact (World.orders_wakeWatchers _ task).trans
      (s.world.orders_modifyFlow task Flow.orders_cancelTask)

/-- Whatever happens takes the callbacks on, if at all. -/
theorem Minds.deeds (h : s.Minds v early lost place) {ds : List (Deed ρ)}
    (hr : ∀ d ∈ ds, ¬ d.Registers v.name) (hl : s.LosesIn v.name ds → lost) :
    (s.deeds ds).Follows v early lost place := by
  induction ds generalizing s place with
  | nil => exact h.follows
  | cons d rest ih =>
    have hd : (s.deed d).Follows v early lost place := by
      refine h.deed (hr d List.mem_cons_self) fun step hstep hloses => hl ?_
      exact ⟨[], step, rest, by rw [hstep, List.nil_append], hloses⟩
    refine hd.bind fun place' hh => ih hh (fun e he => hr e (List.mem_cons_of_mem d he)) ?_
    rintro ⟨before, step, after, rfl, hloses⟩
    exact hl ⟨d :: before, step, after, rfl, hloses⟩

/-- Before anything has happened there are no callbacks. -/
theorem minds_setUp (setup : Setup ρ) (name : String) :
    (setUp setup).Minds ⟨name, .consumed, .inline⟩ none True .gone where
  holds :=
    { fit :=
        { calm := fun f hf => by cases hf
          requests := fun id position hm => by cases hm
          timers := fun t ht => by cases ht }
      docket := rfl
      called := rfl
      bound := fun task ht => by cases ht
      apt := .inr (.inr trivial)
      still := fun r hr => by cases hr }
  free task hc := by
    rcases hc with ht | ⟨other, hm⟩
    · cases ht
    · cases hm
  started _ _ hm := by cases hm

theorem step_onComplete (hp : s.handles.lookup name = some (.pending p)) (executor : Executor) :
    (s.step (.onComplete name executor)).1 =
      if s.world.down then s.removeHandle name
      else (s.removeHandle name).mapWorld (·.enqueue (.watch ⟨name, p, executor⟩)) := by
  simp only [Scene.step]
  unfold withPending
  rw [hp]
  rfl

/-- The first callbacks of a name are registered, unless the runtime is gone. -/
theorem Minds.register {u : Watcher ρ} (h : s.Minds u none True .gone) (hu : u.name = name)
    (hp : s.handles.lookup name = some (.pending p)) (executor : Executor) (lost : Prop) :
    ∃ place, (s.step (.onComplete name executor)).1.Minds ⟨name, p, executor⟩
        (s.world.known? p) lost place ∧ (s.world.down = true → place = .gone) := by
  have hfree : ∀ task, p = .inFlight task → s.Free task := fun task ht =>
    h.free task (.inr ⟨name, ht ▸ mem_of_lookup hp⟩)
  have hbound : ∀ task, p = .inFlight task → task < s.world.flows.length := fun task ht =>
    (hfree task ht).bound
  rw [step_onComplete hp]
  split
  next hdown =>
    refine ⟨.gone, ?_, fun _ => rfl⟩
    refine h.hold hfree ⟨⟨h.holds.fit, ?_, ?_, hbound⟩, .inr (.inl hdown), fun _ hr => hr⟩
      List.prefix_rfl (s.removeHandle_subset name)
    · exact hu ▸ h.holds.docket
    · exact hu ▸ h.holds.called
  next hup =>
    refine ⟨.queued, ?_, fun hdown => absurd hdown hup⟩
    exact h.hold hfree (h.holds.toAt.register hu hbound) List.prefix_rfl (s.removeHandle_subset name)

/-- Whoever awaits a handle whose result is known gets that. -/
theorem awaitInContext_of_known? {r : Result ρ} (h : s.world.known? p = some r) :
    (s.awaitInContext p none).2.2 = .result r := by
  have hwait : ∀ after, (p.wait s.world.joined? after).2 = some r := by
    intro after
    have hpoll : (p.poll s.world.joined?).2 = some r := h
    rw [Pending.wait_snd, hpoll, Option.some_or]
  simp only [awaitInContext, awaitPending, Option.isSome_none, Bool.false_eq_true, and_false,
    if_false, Option.filter_none]
  split
  next heq =>
    have hr := congrArg Prod.snd heq
    rw [hwait] at hr
    rw [← Option.some.inj hr]
  next heq =>
    have hr := congrArg Prod.snd heq
    rw [hwait] at hr
    cases hr

theorem runKept_of_tasks {count : Nat} (h : (s.step .runKept).2 = .tasks count) :
    (World.runKept { s.world with kept := [] } s.world.kept).2 = none := by
  simp only [Scene.step] at h
  split at h
  next heq => rw [heq]
  next => cases h

theorem deeds_append (s : Scene ρ) (before after : List (Deed ρ)) :
    s.deeds (before ++ after) = (s.deeds before).deeds after :=
  List.foldl_append

/-- Callbacks whose task an executor has let go of are never called. -/
theorem Minds.called_of_losesIn (h : s.Minds v early True place) {ds : List (Deed ρ)}
    (hr : ∀ d ∈ ds, ¬ d.Registers v.name) (hl : s.LosesIn v.name ds) :
    (s.deeds ds).world.called v.name = [] := by
  obtain ⟨before, step, after, rfl, hloses⟩ := hl
  obtain ⟨middle, -, hm⟩ := h.deeds (fun d hd => hr d (List.mem_append_left _ hd)) fun _ => trivial
  have hgone : ((s.deeds before).deed (.call step)).Minds v early True .gone :=
    hm.loses hloses trivial
  obtain ⟨place', hp, hh⟩ := hgone.deeds
    (fun d hd => hr d (List.mem_append_right _ (List.mem_cons_of_mem _ hd))) fun _ => trivial
  obtain rfl := hp rfl
  rw [deeds_append]
  exact hh.holds.called

/-- Callbacks that were registered in `s` for the handle `p`, and what awaiting it gives, in the
scene `t` to which `after` has led. -/
structure CallsBack (s : Scene ρ) (name : String) (p : Pending Nat ρ) (executor : Executor)
    (after : List (Deed ρ)) (t : Scene ρ) : Prop where
  /-- At most one of them is called, at most once. -/
  once : (t.world.called name).length ≤ 1
  /-- What it is called with is what the handle gives then. -/
  right : ∀ r ∈ t.world.called name, t.world.known? p = some r
  known : ∀ r, t.world.known? p = some r ↔
    p = .ready r ∨ (p = .consumed ∧ r = .error (.usage .resultAlreadyTaken)) ∨
      ∃ task f, p = .inFlight task ∧ t.world.flows[task]? = some f ∧ f.Ends r
  awaited : ∀ r, t.world.known? p = some r → (t.awaitInContext p none).2.2 = .result r
  /-- Whoever has awaited it since gets no other result. -/
  waited : (p.wait s.world.joined? t.world.joined?).2 = t.world.known? p
  /-- They are called as soon as there is anything to call them with and no more to be done. -/
  settled : t.world.down = false → executor.discipline ≠ .drops →
    ¬ (s.step (.onComplete name executor)).1.LosesIn name after → t.world.Clear name →
      t.world.called name = (t.world.known? p).toList
  /-- It comes to that before the world is at rest if the executor runs its tasks at once, -/
  comes : t.world.down = false → executor.discipline = .runs →
    ¬ (s.step (.onComplete name executor)).1.LosesIn name after →
      ∃ n, (World.tick^[n] t.world).AtRest ∧
        (World.tick^[n] t.world).called name = ((World.tick^[n] t.world).known? p).toList
  /-- and else when it runs them later. -/
  later : t.world.down = false → executor.discipline = .keeps →
    ¬ (s.step (.onComplete name executor)).1.LosesIn name after →
      ∃ n, (World.tick^[n] t.world).AtRest ∧
        ∀ count, ((t.mapWorld World.tick^[n]).step .runKept).2 = .tasks count →
          ((t.mapWorld World.tick^[n]).step .runKept).1.world.called name =
            ((World.tick^[n] t.world).known? p).toList
  /-- Neither is called if the executor drops its tasks, at once -/
  dropped : executor.discipline = .drops → t.world.called name = []
  /-- or later, -/
  letGo : (s.step (.onComplete name executor)).1.LosesIn name after → t.world.called name = []
  /-- or if there was no runtime to await the result. -/
  missed : s.world.down = true → t.world.called name = []

/-- A pair of callbacks, registered at any time for any handle there is, and whatever happens then:
one of them is called, once, with what awaiting the handle gives, as soon as that is known and the
executor runs the task. Nobody else registers callbacks under their name, by which they are told
apart. -/
theorem completion_law (setup : Setup ρ) (before after : List (Deed ρ)) {name : String}
    {p : Pending Nat ρ} (executor : Executor)
    (hp : ((setUp setup).deeds before).handles.lookup name = some (.pending p))
    (hr : ∀ d ∈ before ++ after, ¬ d.Registers name) :
    ((setUp setup).deeds before).CallsBack name p executor after
      ((((setUp setup).deeds before).step (.onComplete name executor)).1.deeds after) := by
  have hra : ∀ d ∈ after, ¬ d.Registers name := fun d hd => hr d (List.mem_append_right _ hd)
  obtain ⟨place, hplace, hbefore⟩ := (minds_setUp setup name).deeds
    (fun d hd => hr d (List.mem_append_left after hd)) fun _ => trivial
  obtain rfl := hplace rfl
  generalize (setUp setup).deeds before = s at hp hbefore ⊢
  have hregistered := hbefore.register rfl hp executor
  generalize hu : (s.step (.onComplete name executor)).1 = u at hregistered ⊢
  obtain ⟨start, hstart, hdown⟩ := hregistered (u.LosesIn name after)
  obtain ⟨place, hgone, hmind⟩ := hstart.deeds hra fun hl => hl
  have hh := hmind.holds
  generalize ht : u.deeds after = t at hh ⊢
  constructor
  case once => exact hh.length_called_le
  case right => exact fun r hr => hh.known?_of_called hr
  case known => exact fun r => World.known?_eq_some_iff
  case awaited => exact fun r hk => awaitInContext_of_known? hk
  case waited => exact World.wait_eq_known? hh.still
  case settled =>
    rintro hup hd hl ⟨hqueued, hpooled, hk⟩
    have hcalled := hh.called_append_kept hqueued hpooled hup hd (hu ▸ hl)
    rwa [hk, List.append_nil] at hcalled
  case comes =>
    intro hup hd hl
    obtain ⟨n, later, hrest, hlater, hcalled⟩ := hh.exists_tick hup (by simp [hd]) (hu ▸ hl)
    rw [hlater.kept_eq_nil (by simp [hd]), List.append_nil] at hcalled
    exact ⟨n, hrest, hcalled⟩
  case later =>
    intro hup hd hl
    obtain ⟨n, later, hrest, -, hcalled⟩ := hh.exists_tick hup (by simp [hd]) (hu ▸ hl)
    refine ⟨n, hrest, fun count hcount => ?_⟩
    rw [step_runKept, ← hcalled]
    exact World.called_runKept _ name (runKept_of_tasks hcount)
  case dropped => exact hh.called_of_drops
  case letGo =>
    intro hl
    rw [hu] at hl
    rw [← ht]
    obtain ⟨start, hstart, -⟩ := hregistered True
    exact hstart.called_of_losesIn hra hl
  case missed =>
    intro hd
    obtain rfl := hgone (hdown hd)
    exact hh.called

/-- A program submits a batch and gives up on it after five milliseconds. -/
def impatient : List (Deed Nat) :=
  [.call (.make "batch" (.batch .unlogged []
      [.statement (.unprepared "first" {} []), .statement (.unprepared "second" {} [])]) []),
    .call (.submit "batch" "handle"), .call (.joinWithin "handle" ⟨5000000⟩)]

/-- It registers callbacks then, and they are called when all requests are over. -/
theorem callsBack_of_impatient :
    ((setUp slowSession).deeds impatient).handles.lookup "handle" =
        some (.pending (.inFlight 0)) ∧
      ((setUp slowSession).deeds impatient).CallsBack "handle" (.inFlight 0) .inline
        [.call (.advance 100)]
        ((((setUp slowSession).deeds impatient).step (.onComplete "handle" .inline)).1.deeds
          [.call (.advance 100)]) ∧
      ((((setUp slowSession).deeds impatient).step (.onComplete "handle" .inline)).1.deeds
          [.call (.advance 100)]).world.called "handle" =
        [.ok (.batch ⟨[.ok 7, .ok 7]⟩)] := by
  refine ⟨rfl, ?_, rfl⟩
  refine completion_law slowSession impatient [.call (.advance 100)] .inline rfl ?_
  simp [impatient, Deed.Registers, Step.Registers]

/-- A runtime that is gone has cancelled the batch, which whoever awaits it is told, but callbacks
are not. -/
theorem missed_of_shutDown :
    (((slow.step (.submit "batch" "handle")).1.step .shutDown).1.step (.join "handle")).2 =
        .result (.error (.interrupted "the task was cancelled")) ∧
      ∀ n, (World.tick^[n] (((slow.step (.submit "batch" "handle")).1.step .shutDown).1.step
        (.onComplete "handle" .inline)).1.world).called "handle" = [] := by
  refine ⟨rfl, fun n => ?_⟩
  rw [World.AtRest.iterate_tick ⟨rfl, rfl⟩ n]
  rfl

end Scene
end Simulation
end CqlOperations
