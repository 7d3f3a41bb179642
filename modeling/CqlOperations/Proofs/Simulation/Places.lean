import CqlOperations.Proofs.Simulation.Clock
import CqlOperations.Proofs.Simulation.Docket
import CqlOperations.Proofs.Simulation.Trajectory

/-! The way of one pair of callbacks through a world: from a watcher that looks for the result to the
task that calls one of them, and no further. Whatever happens in the world takes the pair on along
this way or leaves it where it is. It gets lost only with its runtime or its executor. -/
namespace CqlOperations.Simulation

variable {ρ : Type}

inductive Place (ρ : Type) where
  | queued
  | asleep
  | pooled (result : Result ρ)
  | kept (result : Result ρ)
  | called (result : Result ρ)
  | gone

namespace Place

def docket (v : Watcher ρ) : Place ρ → Docket ρ
  | queued => { queued := [v] }
  | asleep => { asleep := [v] }
  | pooled r => { pooled := [r] }
  | kept r => { kept := [r] }
  | called _ => {}
  | gone => {}

def calls : Place ρ → List (Result ρ)
  | called r => [r]
  | _ => []

/-- What has to be so for callbacks to be there: no watcher sleeps once the result is known, and
nothing but the result is handed over. `lost` says that an executor has let go of what it kept. -/
def Apt (v : Watcher ρ) (known? : Option (Result ρ)) (down : Bool) (lost : Prop) : Place ρ → Prop
  | queued => True
  | asleep => known? = none
  | pooled r => known? = some r ∧ ∃ runtime, v.executor = .blockingPool runtime
  | kept r => known? = some r ∧ ∃ name, v.executor = .logged name .keeps
  | called r => known? = some r ∧ v.executor.discipline ≠ .drops
  | gone => v.executor.discipline = .drops ∨ down = true ∨ lost

theorem Apt.mono {v : Watcher ρ} {known? known' : Option (Result ρ)} {down down' : Bool}
    {lost : Prop} {place : Place ρ} (h : place.Apt v known? down lost)
    (hk : ∀ r, known? = some r → known' = some r) (hd : down = true → down' = true)
    (hp : place ≠ .asleep) : place.Apt v known' down' lost := by
  cases place with
  | queued => trivial
  | asleep => exact absurd rfl hp
  | pooled r => exact ⟨hk r h.1, h.2⟩
  | kept r => exact ⟨hk r h.1, h.2⟩
  | called r => exact ⟨hk r h.1, h.2⟩
  | gone => exact h.imp_right (.imp_left hd)

end Place

/-- Whether a watcher waits for this execution. -/
def Watcher.isFor (id : Nat) (v : Watcher ρ) : Bool :=
  match v.handle with
  | .inFlight task => task = id
  | _ => false

namespace World

variable {v : Watcher ρ} {early : Option (Result ρ)} {lost : Prop} {place : Place ρ}
  {w w' : World ρ} {id : Nat}

/-- The callbacks are there, and nowhere else. -/
structure At (v : Watcher ρ) (place : Place ρ) (w : World ρ) : Prop where
  fit : w.Fit
  docket : w.docket v.name = place.docket v
  called : w.called v.name = place.calls
  bound : ∀ task, v.handle = .inFlight task → task < w.flows.length

/-- And as they should be there. What was known `early` is known still. -/
structure Holds (v : Watcher ρ) (early : Option (Result ρ)) (lost : Prop) (place : Place ρ)
    (w : World ρ) : Prop extends w.At v place where
  apt : place.Apt v (w.known? v.handle) w.down lost
  still : ∀ r, early = some r → w.known? v.handle = some r

/-- The callbacks have got on from there. Those that are gone do not come back. -/
def Follows (v : Watcher ρ) (early : Option (Result ρ)) (lost : Prop) (place : Place ρ)
    (w : World ρ) : Prop :=
  ∃ place', (place = .gone → place' = .gone) ∧ w.Holds v early lost place'

theorem Holds.follows (h : w.Holds v early lost place) : w.Follows v early lost place :=
  ⟨place, fun hg => hg, h⟩

theorem Follows.bind (h : w.Follows v early lost place)
    (hn : ∀ place', w.Holds v early lost place' → w'.Follows v early lost place') :
    w'.Follows v early lost place := by
  obtain ⟨middle, hm, hh⟩ := h
  obtain ⟨place', hp, hh'⟩ := hn middle hh
  exact ⟨place', fun hg => hp (hm hg), hh'⟩

theorem known?_congr {p : Pending Nat ρ}
    (h : ∀ task, p = .inFlight task → w'.joined? task = w.joined? task) :
    w'.known? p = w.known? p := by
  cases p with
  | ready r => rfl
  | consumed => rfl
  | inFlight task => simp only [known?, Pending.poll_inFlight, h task rfl]

theorem known?_mono {p : Pending Nat ρ}
    (h : ∀ task r, w.joined? task = some r → w'.joined? task = some r) {r : Result ρ}
    (hk : w.known? p = some r) : w'.known? p = some r := by
  cases p with
  | ready result => exact hk
  | consumed => exact hk
  | inFlight task =>
    simp only [known?, Pending.poll_inFlight] at hk ⊢
    exact h task r hk

theorem At.of_works (h : w.At v place) {touched : Option Nat}
    (hw : Works v.name touched [] w w') : w'.At v place where
  fit := hw.fit h.fit
  docket := hw.docket.trans h.docket
  called := by rw [hw.called, List.append_nil, h.called]
  bound task ht := by
    rw [hw.length]
    exact h.bound task ht

/-- Work that does not end what the callbacks wait for. -/
theorem Holds.of_works (h : w.Holds v early lost place) {touched : Option Nat}
    (hw : Works v.name touched [] w w')
    (ht : ∀ task, v.handle = .inFlight task → touched ≠ some task) :
    w'.Holds v early lost place where
  toAt := h.toAt.of_works hw
  apt := by
    rw [known?_congr fun task hv => hw.joined task (ht task hv), hw.down]
    exact h.apt
  still := by
    rw [known?_congr fun task hv => hw.joined task (ht task hv)]
    exact h.still

theorem Holds.of_aside (h : w.Holds v early lost place) (hw : Works v.name none [] w w') :
    w'.Holds v early lost place :=
  h.of_works hw nofun

/-! Watchers are woken by the end of what they wait for. -/

theorem wakeWatchers_eq (w : World ρ) (id : Nat) :
    w.wakeWatchers id = { w with
      watchers := w.watchers.filter (!Watcher.isFor id ·)
      queue := w.queue ++ (w.watchers.filter (Watcher.isFor id)).map .watch } := by
  unfold wakeWatchers
  dsimp only
  rw [List.partition_eq_filter_filter]
  rfl

theorem docket_wakeWatchers (w : World ρ) (id : Nat) (name : String) :
    (w.wakeWatchers id).docket name = { w.docket name with
      queued := (w.docket name).queued ++ (w.docket name).asleep.filter (Watcher.isFor id)
      asleep := (w.docket name).asleep.filter (!Watcher.isFor id ·) } := by
  have hwatcher : ∀ watchers : List (Watcher ρ),
      (watchers.map Job.watch).filterMap (Job.watcher? name) = watchers.filter (·.name = name) := by
    intro watchers
    rw [List.filterMap_map, ← List.filterMap_eq_filter]
    apply List.filterMap_congr
    simp [Job.watcher?, Option.guard]
  have hnone : ∀ watchers : List (Watcher ρ),
      (watchers.map Job.watch).filterMap (Job.completion? name) = [] := by
    simp [Job.completion?]
  rw [wakeWatchers_eq]
  simp only [docket, List.filterMap_append, hwatcher, hnone, List.append_nil, List.filter_filter,
    Bool.and_comm]

end World

/-- Where callbacks are once all who wait for this execution were woken. -/
def Place.woken (v : Watcher ρ) (id : Nat) : Place ρ → Place ρ
  | asleep => if v.isFor id then queued else asleep
  | place => place

namespace World

variable {v : Watcher ρ} {early : Option (Result ρ)} {lost : Prop} {place : Place ρ}
  {w w' : World ρ} {id : Nat}

theorem Fit.wakeWatchers (h : w.Fit) (id : Nat) : (w.wakeWatchers id).Fit := by
  rw [wakeWatchers_eq]
  refine ⟨h.calm, fun other position hm => h.requests other position ?_, h.timers⟩
  rcases List.mem_append.mp hm with hm | hm
  · rcases List.mem_append.mp hm with hm | hm
    · exact List.mem_append_left _ hm
    · obtain ⟨watcher, -, hw⟩ := List.mem_map.mp hm
      cases hw
  · exact List.mem_append_right _ hm

theorem At.wakeWatchers (h : w.At v place) (id : Nat) :
    (w.wakeWatchers id).At v (place.woken v id) where
  fit := h.fit.wakeWatchers id
  docket := by
    rw [docket_wakeWatchers, h.docket]
    cases place with
    | asleep => cases hv : v.isFor id <;> simp [Place.docket, Place.woken, hv]
    | _ => simp [Place.docket, Place.woken]
  called := by
    have hsame : (w.wakeWatchers id).called v.name = w.called v.name := rfl
    rw [hsame, h.called]
    cases place with
    | asleep => cases hv : v.isFor id <;> simp [Place.calls, Place.woken, hv]
    | _ => rfl
  bound := h.bound

/-- An execution has come to its end, or was there before, and all who wait for it are woken. -/
theorem Holds.ends (h : w.Holds v early lost place) (hw : Works v.name (some id) [] w w')
    (hs : ∀ r, w.joined? id = some r → w'.joined? id = some r) :
    (w'.wakeWatchers id).Follows v early lost place := by
  have hknown : ∀ r, w.known? v.handle = some r →
      (w'.wakeWatchers id).known? v.handle = some r := by
    intro r
    apply known?_mono
    intro task r hr
    by_cases ht : id = task
    · exact ht ▸ hs r (ht ▸ hr)
    · exact (hw.joined task (by simpa using ht)).trans hr
  have hdown : (w'.wakeWatchers id).down = w.down := hw.down
  have hapt := h.apt
  refine ⟨place.woken v id, ?_, (h.toAt.of_works hw).wakeWatchers id, ?_,
    fun r hr => hknown r (h.still r hr)⟩
  · rintro rfl
    rfl
  · rw [hdown]
    cases place with
    | asleep =>
      unfold Place.woken
      cases hv : v.isFor id with
      | true => trivial
      | false =>
        -- it sleeps on, because it waits for something else
        have hne : ∀ task, v.handle = .inFlight task → some id ≠ some task := by
          intro task ht he
          cases he
          simp [Watcher.isFor, ht] at hv
        exact (known?_congr fun task ht => hw.joined task (hne task ht)).trans hapt
    | _ => exact hapt.mono hknown (fun hd => hd) nofun

/-- An execution has got on, but not to its end. -/
theorem Holds.goesOn (h : w.Holds v early lost place) (hw : Works v.name (some id) [] w w')
    (ho : w.joined? id = none) (hn : w'.joined? id = none) : w'.Holds v early lost place := by
  have hsame : w'.known? v.handle = w.known? v.handle := by
    apply known?_congr
    intro task _
    by_cases ht : id = task
    · rw [← ht, ho, hn]
    · exact hw.joined task (by simpa using ht)
  refine ⟨h.toAt.of_works hw, ?_, ?_⟩
  · rw [hsame, hw.down]
    exact h.apt
  · rw [hsame]
    exact h.still

theorem Holds.pollFlow (h : w.Holds v early lost place) (id : Nat) :
    (w.pollFlow id).Follows v early lost place := by
  unfold World.pollFlow
  split
  next => exact h.follows
  next f hf =>
    split
    next => exact h.follows
    next hopen =>
      have hopen : w.joined? id = none := by
        simp only [not_or, not_not, Bool.not_eq_true, Option.isSome_eq_false_iff,
          Option.isNone_iff_eq_none] at hopen
        simp [joined?_eq, hf, Flow.joined?, hopen.1, hopen.2]
      have hfirst : Works v.name (some id) [] w
          (if f.execution.awaitsRequest then w.pollRequest id 0 else w) := by
        split
        next => exact Works.pollRequest (.inl rfl)
        next => exact .refl w
      dsimp only
      generalize (if f.execution.awaitsRequest then w.pollRequest id 0 else w) = first at hfirst ⊢
      have hdone := hfirst.trans (Works.advance first rfl (2 * f.layers + 4))
      split
      next => exact h.ends hdone fun r hr => by rw [hopen] at hr; cases hr
      next hn =>
        exact (h.goesOn hdone hopen (by simpa using hn)).follows

/-! A watcher that finds the result hands it over. -/

/-- Work that calls the callbacks, whose task was taken in hand. -/
theorem At.calls (h : w.At v .gone) {r : Result ρ} (hw : Works v.name none [r] w w')
    (hk : w.known? v.handle = some r) (hs : ∀ r, early = some r → w.known? v.handle = some r)
    (hd : v.executor.discipline ≠ .drops) : w'.Holds v early lost (.called r) := by
  have hsame : w'.known? v.handle = w.known? v.handle :=
    known?_congr fun task _ => hw.joined task nofun
  refine ⟨⟨hw.fit h.fit, hw.docket.trans h.docket, ?_, ?_⟩, ⟨hsame.trans hk, hd⟩, hsame ▸ hs⟩
  · rw [hw.called, h.called]
    rfl
  · rw [hw.length]
    exact h.bound

theorem At.runTask (h : w.At v .gone) {t : Task ρ} {r : Result ρ}
    (hc : t.completion? v.name = some r) (hk : w.known? v.handle = some r)
    (hs : ∀ r, early = some r → w.known? v.handle = some r)
    (hd : v.executor.discipline ≠ .drops) : (w.runTask t).1.Holds v early lost (.called r) := by
  have hw : Works v.name none (t.completion? v.name).toList w (w.runTask t).1 := Works.runTask w t
  rw [hc] at hw
  exact h.calls hw hk hs hd

/-- The callbacks were with nobody, and now the result is handed to their executor. -/
theorem At.hand (h : w.At v .gone) {r : Result ρ} (hk : w.known? v.handle = some r)
    (hs : ∀ r, early = some r → w.known? v.handle = some r) :
    ∃ place', (w.hand (.complete v.name r) v.executor).1.Holds v early lost place' := by
  have hc : (Task.complete v.name r).completion? v.name = some r := if_pos rfl
  have hlog : ∀ name, (w.log (.executor name)).At v .gone := by
    intro name
    have hw : Works v.name none [] w (w.log (.executor name)) := Works.log w _ rfl
    exact h.of_works hw
  cases he : v.executor with
  | inline => exact ⟨.called r, h.runTask hc hk hs (by simp [he, Executor.discipline])⟩
  | blockingPool runtime =>
    unfold World.hand
    by_cases hd : w.down
    · simp only [hd, if_true]
      exact ⟨.gone, h, .inr (.inl hd), hs⟩
    · simp only [hd]
      refine ⟨.pooled r, ⟨h.fit.enqueue nofun, ?_, h.called, h.bound⟩, ⟨hk, runtime, he⟩, hs⟩
      change (w.enqueue (.work (.complete v.name r))).docket v.name = _
      rw [docket_enqueue, h.docket]
      simp [Job.completion?, Task.completion?, Job.watcher?, Place.docket]
  | logged name discipline =>
    cases discipline with
    | runs =>
      exact ⟨.called r, (hlog name).runTask hc hk hs (by simp [he, Executor.discipline])⟩
    | drops => exact ⟨.gone, hlog name, .inl (by simp [he, Executor.discipline]), hs⟩
    | keeps =>
      have hfit := (hlog name).fit
      refine ⟨.kept r, ⟨⟨hfit.calm, hfit.requests, hfit.timers⟩, ?_, (hlog name).called, h.bound⟩,
        ⟨hk, name, he⟩, hs⟩
      have hdocket : w.docket v.name = {} := h.docket
      simp only [World.docket, Docket.mk.injEq] at hdocket
      simp [World.hand, World.docket, World.log, hdocket, Task.completion?, Place.docket]

/-- The watcher of the callbacks looks for the result. -/
theorem At.look (h : w.At v .gone) (hs : ∀ r, early = some r → w.known? v.handle = some r) :
    ∃ place', (w.runJob (.watch v)).Holds v early lost place' := by
  unfold World.runJob
  dsimp only
  split
  next r hk => exact h.hand hk hs
  next hk =>
    refine ⟨.asleep, ⟨⟨h.fit.calm, h.fit.requests, h.fit.timers⟩, ?_, h.called, h.bound⟩, hk, hs⟩
    have hdocket : w.docket v.name = {} := h.docket
    simp only [World.docket, Docket.mk.injEq] at hdocket
    simp [World.docket, hdocket, Place.docket]

theorem Holds.look (h : w.Holds v early lost place) {u : Watcher ρ} (hu : u.name ≠ v.name) :
    (w.runJob (.watch u)).Holds v early lost place := by
  unfold World.runJob
  dsimp only
  split
  next r _ =>
    have hc : (Task.complete u.name r).completion? v.name = none := if_neg hu
    exact h.of_aside (Works.hand w hc u.executor)
  next => exact h.of_aside (Works.sleep w hu)

theorem Fit.pop (h : w.Fit) {j : Job ρ} {rest : List (Job ρ)} (hq : w.queue = j :: rest) :
    Fit { w with queue := rest } where
  calm := h.calm
  requests id position hm := h.requests id position (by
    unfold jobs
    rw [hq]
    exact List.mem_cons_of_mem _ hm)
  timers := h.timers

/-- A job that has nothing to do with the callbacks is taken from the queue. -/
theorem At.pop (h : w.At v place) {j : Job ρ} {rest : List (Job ρ)} (hq : w.queue = j :: rest)
    (hw : j.watcher? v.name = none) (hc : j.completion? v.name = none) :
    At v place { w with queue := rest } := by
  refine ⟨h.fit.pop hq, ?_, h.called, h.bound⟩
  rw [← h.docket]
  simp only [World.docket, hq, List.filterMap_cons_none hw, List.filterMap_cons_none hc]

/-- Their watcher is taken from the queue. -/
theorem At.popWatcher (h : w.At v place) {u : Watcher ρ} {rest : List (Job ρ)}
    (hq : w.queue = .watch u :: rest) (hu : u.name = v.name) :
    place = .queued ∧ u = v ∧ At v .gone { w with queue := rest } := by
  have hw : (Job.watch u).watcher? v.name = some u := if_pos hu
  have hc : (Job.watch u).completion? v.name = none := rfl
  have hd := h.docket
  have hcalled := h.called
  simp only [World.docket, hq, List.filterMap_cons_some hw, List.filterMap_cons_none hc] at hd
  cases place with
  | queued =>
    simp only [Place.docket, Docket.mk.injEq, List.cons.injEq] at hd
    obtain ⟨⟨rfl, hrest⟩, ha, hp, hk⟩ := hd
    refine ⟨rfl, rfl, h.fit.pop hq, ?_, hcalled, h.bound⟩
    simp only [World.docket, hrest, ha, hp, hk, Place.docket]
  | _ => simp [Place.docket] at hd

/-- Their task is taken from the queue. -/
theorem At.popTask (h : w.At v place) {t : Task ρ} {r : Result ρ} {rest : List (Job ρ)}
    (hq : w.queue = .work t :: rest) (ht : t.completion? v.name = some r) :
    place = .pooled r ∧ At v .gone { w with queue := rest } := by
  have hw : (Job.work t).watcher? v.name = none := rfl
  have hc : (Job.work t).completion? v.name = some r := ht
  have hd := h.docket
  have hcalled := h.called
  simp only [World.docket, hq, List.filterMap_cons_none hw, List.filterMap_cons_some hc] at hd
  cases place with
  | pooled r' =>
    simp only [Place.docket, Docket.mk.injEq, List.cons.injEq] at hd
    obtain ⟨hrest, ha, ⟨rfl, hp⟩, hk⟩ := hd
    refine ⟨rfl, h.fit.pop hq, ?_, hcalled, h.bound⟩
    simp only [World.docket, hrest, ha, hp, hk, Place.docket]
  | _ => simp [Place.docket] at hd

/-- The first job is taken from the queue and runs. -/
theorem Holds.runFirst (h : w.Holds v early lost place) {j : Job ρ} {rest : List (Job ρ)}
    (hq : w.queue = j :: rest) :
    ({ w with queue := rest }.runJob j).Follows v early lost place := by
  have hpop : j.watcher? v.name = none → j.completion? v.name = none →
      Holds v early lost place { w with queue := rest } := fun hw hc =>
    ⟨h.toAt.pop hq hw hc, h.apt, h.still⟩
  cases j with
  | flow id => exact (hpop rfl rfl).pollFlow id
  | request id position =>
    have hjob : Job.request id position ∈ w.jobs := by
      unfold jobs
      rw [hq]
      exact List.mem_cons_self
    obtain ⟨f, hf, hfan⟩ := h.fit.requests id position hjob
    have hadmits : World.Admits { w with queue := rest } none id := by
      refine .inr fun g hg => ?_
      obtain rfl : f = g := Option.some.inj (hf.symm.trans hg)
      exact h.fit.calm f (List.mem_of_getElem? hf) hfan
    exact ((hpop rfl rfl).of_aside (Works.pollRequest hadmits)).follows
  | work t =>
    cases hc : t.completion? v.name with
    | none =>
      have hrun : Works v.name none (t.completion? v.name).toList { w with queue := rest }
          ({ w with queue := rest }.runTask t).1 := Works.runTask _ t
      rw [hc] at hrun
      exact ((hpop rfl hc).of_aside hrun).follows
    | some r =>
      obtain ⟨rfl, hgone⟩ := h.toAt.popTask hq hc
      obtain ⟨hk, runtime, he⟩ := h.apt
      exact ⟨.called r, nofun, hgone.runTask hc hk h.still (by simp [he, Executor.discipline])⟩
  | watch u =>
    by_cases hu : u.name = v.name
    · obtain ⟨rfl, rfl, hgone⟩ := h.toAt.popWatcher hq hu
      have hlooked : ∃ place',
          Holds u early lost place' ({ w with queue := rest }.runJob (.watch u)) :=
        hgone.look h.still
      obtain ⟨place', hh⟩ := hlooked
      exact ⟨place', nofun, hh⟩
    · exact ((hpop (if_neg hu) rfl).look hu).follows

theorem exists_queue_fireTimers (w : World ρ) (due : Nat) :
    ∃ jobs, (w.fireTimers due).queue = w.queue ++ jobs ∧ ∀ j ∈ jobs, ∃ t ∈ w.timers, t.job = j := by
  unfold World.fireTimers
  dsimp only
  refine ⟨_, List.append_assoc _ _ _, fun j hj => ?_⟩
  obtain ⟨t, ht, hjob⟩ := List.mem_map.mp ((partition_perm _ _).subset hj)
  exact ⟨t, (partition_perm _ _).subset (List.mem_append_left _ ht), hjob⟩

/-- Only executions and requests have to wait for the clock. -/
theorem Fit.works_fireTimers (h : w.Fit) (name : String) (due : Nat) :
    Works name none [] w (w.fireTimers due) where
  docket := by
    obtain ⟨jobs, hq, hjobs⟩ := exists_queue_fireTimers w due
    have hnone : ∀ j ∈ jobs, j.watcher? name = none ∧ j.completion? name = none := by
      intro j hj
      obtain ⟨t, ht, rfl⟩ := hjobs j hj
      rcases h.timers t ht with ⟨id, hid⟩ | ⟨id, position, hid⟩
      · rw [hid]
        exact ⟨rfl, rfl⟩
      · rw [hid]
        exact ⟨rfl, rfl⟩
    have hw : jobs.filterMap (Job.watcher? name) = [] :=
      List.filterMap_eq_nil_iff.mpr fun j hj => (hnone j hj).1
    have hc : jobs.filterMap (Job.completion? name) = [] :=
      List.filterMap_eq_nil_iff.mpr fun j hj => (hnone j hj).2
    simp only [World.docket, hq, List.filterMap_append, hw, hc, List.append_nil]
    rfl
  called := (List.append_nil _).symm
  down := rfl
  length := rfl
  joined _ _ := rfl
  fit _ :=
    { calm := h.calm
      requests := fun id position hm => h.requests id position ((jobs_fireTimers w due).subset hm)
      timers := fun t ht => h.timers t (mem_timers_fireTimers ht).1 }

theorem Holds.fireTimers (h : w.Holds v early lost place) (due : Nat) :
    (w.fireTimers due).Holds v early lost place :=
  h.of_aside (h.fit.works_fireTimers v.name due)

theorem Holds.runUntil (h : w.Holds v early lost place) (limit : Nat) (stop : World ρ → Bool)
    (fuel : Nat) : (w.runUntil limit stop fuel).Follows v early lost place := by
  induction fuel generalizing w place with
  | zero => exact h.follows
  | succ fuel ih =>
    unfold World.runUntil
    split
    next => exact h.follows
    next =>
      split
      next job rest hq => exact (h.runFirst hq).bind fun _ hh => ih hh
      next =>
        split
        next due _ =>
          split
          next => exact ih (h.fireTimers due)
          next => exact (h.fireTimers limit).follows
        next => exact (h.fireTimers limit).follows

theorem Holds.tick (h : w.Holds v early lost place) : w.tick.Follows v early lost place := by
  unfold World.tick
  split
  next job rest hq => exact h.runFirst hq
  next =>
    split
    next due _ => exact (h.fireTimers due).follows
    next => exact h.follows

theorem Holds.waitFor (h : w.Holds v early lost place) (id limit : Nat) :
    (w.waitFor id limit).Follows v early lost place := by
  unfold World.waitFor
  split
  next => exact h.follows
  next => exact h.runUntil _ _ _

theorem Holds.driveFlow (h : w.Holds v early lost place) (id : Nat) :
    (w.driveFlow id).Follows v early lost place := by
  have hdriven : ∀ (w : World ρ) (driven : Option Nat) (place : Place ρ),
      w.Holds v early lost place → Holds v early lost place { w with driven } := fun w _ _ h =>
    h.of_aside (.of_eq rfl rfl rfl rfl rfl rfl rfl)
  have hpolled := (hdriven w (some id) place h).pollFlow id
  unfold World.driveFlow
  dsimp only
  generalize World.pollFlow { w with driven := some id } id = polled at hpolled ⊢
  have hwaited : Follows v early lost place (if polled.down then polled
      else (polled.waitFor id (polled.now + patience)).pollFlow id) := by
    split
    next => exact hpolled
    next => exact hpolled.bind fun _ hh => (hh.waitFor id _).bind fun _ hh' => hh'.pollFlow id
  exact hwaited.bind fun _ hh => (hdriven _ none _ hh).follows

/-! Executors that keep their tasks, and the end of a runtime. -/

theorem At.filterMap_kept (h : w.At v place) :
    w.kept.filterMap (Task.completion? v.name) = (place.docket v).kept := by
  rw [← h.docket]
  rfl

theorem Fit.take (h : w.Fit) : Fit { w with kept := [] } :=
  ⟨h.calm, h.requests, h.timers⟩

/-- Callbacks that no executor keeps stay where they are while it has its tasks in hand. -/
theorem Holds.take (h : w.Holds v early lost place) (hp : (place.docket v).kept = []) :
    Holds v early lost place { w with kept := [] } := by
  refine ⟨⟨h.fit.take, ?_, h.called, h.bound⟩, h.apt, h.still⟩
  have hkept := h.filterMap_kept
  rw [← h.docket]
  simp only [World.docket, hkept, hp, List.filterMap_nil]

theorem At.takeKept {r : Result ρ} (h : w.At v (.kept r)) : At v .gone { w with kept := [] } := by
  refine ⟨h.fit.take, ?_, h.called, h.bound⟩
  have hdocket := h.docket
  simp only [World.docket, Place.docket, Docket.mk.injEq] at hdocket
  simp only [World.docket, Place.docket, hdocket, List.filterMap_nil]

/-- Work without the callbacks, whose task was taken in hand. -/
theorem At.loses (h : w.At v .gone) (hw : Works v.name none [] w w')
    (hs : ∀ r, early = some r → w.known? v.handle = some r) (hl : lost) :
    w'.Holds v early lost .gone := by
  have hsame : w'.known? v.handle = w.known? v.handle :=
    known?_congr fun task _ => hw.joined task nofun
  exact ⟨h.of_works hw, .inr (.inr hl), hsame ▸ hs⟩

theorem Place.kept_eq_nil (hp : ∀ r, place ≠ .kept r) : (place.docket v).kept = [] := by
  cases place with
  | kept r => exact absurd rfl (hp r)
  | _ => rfl

theorem At.exists_kept (h : w.At v place) (hk : (w.docket v.name).kept ≠ []) :
    ∃ r, place = .kept r := by
  rw [h.docket] at hk
  cases place with
  | kept r => exact ⟨r, rfl⟩
  | _ => exact absurd rfl hk

theorem At.kept_ne_nil {r : Result ρ} (h : w.At v (.kept r)) : (w.docket v.name).kept ≠ [] := by
  rw [h.docket]
  exact List.cons_ne_nil r []

/-- An executor runs what it kept, but a panic takes along what has not run yet. -/
theorem At.exists_runKept (h : w.At v place) :
    ∃ rs, Works v.name none rs { w with kept := [] } (runKept { w with kept := [] } w.kept).1 ∧
      rs <+: (place.docket v).kept := by
  rw [← h.filterMap_kept]
  obtain ⟨rs, hw, hinitial, -⟩ := Works.exists_runKept { w with kept := [] } w.kept
  exact ⟨rs, hw, hinitial⟩

/-- Their task is run with the others, unless it is lost. -/
theorem Holds.runKept_cases {r : Result ρ} (h : w.Holds v early lost (.kept r)) :
    (runKept { w with kept := [] } w.kept).1.Holds v early lost (.called r) ∨
      (runKept { w with kept := [] } w.kept).1.called v.name = [] ∧
        (lost → (runKept { w with kept := [] } w.kept).1.Holds v early lost .gone) := by
  obtain ⟨rs, hw, hinitial⟩ := h.exists_runKept
  obtain ⟨hk, name, he⟩ := h.apt
  rcases List.prefix_cons_iff.mp hinitial with rfl | ⟨more, rfl, hmore⟩
  · refine .inr ⟨?_, h.takeKept.loses hw h.still⟩
    rw [hw.called, List.append_nil]
    exact h.called
  · rw [List.prefix_nil.mp hmore] at hw
    exact .inl (h.takeKept.calls hw hk h.still (by simp [he, Executor.discipline]))

theorem Holds.runKept (h : w.Holds v early lost place)
    (hl : ∀ r, place = .kept r →
      (World.runKept { w with kept := [] } w.kept).1.called v.name = [] → lost) :
    (World.runKept { w with kept := [] } w.kept).1.Follows v early lost place := by
  by_cases hp : ∃ r, place = .kept r
  · obtain ⟨r, rfl⟩ := hp
    rcases h.runKept_cases with hcalled | ⟨hnone, hgone⟩
    · exact ⟨.called r, nofun, hcalled⟩
    · exact ⟨.gone, nofun, hgone (hl r rfl hnone)⟩
  · have hnil : (place.docket v).kept = [] := Place.kept_eq_nil fun r hr => hp ⟨r, hr⟩
    obtain ⟨rs, hw, hinitial⟩ := h.exists_runKept
    rw [hnil, List.prefix_nil] at hinitial
    rw [hinitial] at hw
    exact ((h.take hnil).of_aside hw).follows

/-- An executor lets go of what it kept, and of their task with it. -/
theorem Holds.letGo {r : Result ρ} (h : w.Holds v early lost (.kept r)) (hl : lost) :
    (w.kept.foldl World.dropTask { w with kept := [] }).Holds v early lost .gone :=
  h.takeKept.loses (Works.dropTasks _ _) h.still hl

theorem Holds.dropKept (h : w.Holds v early lost place) (hl : ∀ r, place = .kept r → lost) :
    (w.kept.foldl World.dropTask { w with kept := [] }).Follows v early lost place := by
  by_cases hp : ∃ r, place = .kept r
  · obtain ⟨r, rfl⟩ := hp
    exact ⟨.gone, nofun, h.letGo (hl r rfl)⟩
  · have htaken := h.take (Place.kept_eq_nil fun r hr => hp ⟨r, hr⟩)
    exact (htaken.of_aside (Works.dropTasks _ _)).follows

/-- The end of a runtime does not change what has ended before. -/
theorem Fit.joined?_shutDown (h : w.Fit) {task : Nat} {r : Result ρ}
    (hr : w.joined? task = some r) : w.shutDown.joined? task = some r := by
  rw [joined?_eq] at hr ⊢
  obtain ⟨f, hf, hr⟩ := Option.bind_eq_some_iff.mp hr
  rw [← (h.calm f (List.mem_of_getElem? hf)).cancelRequests.2] at hr
  rw [getElem?_flows_shutDown hf]
  exact Flow.joined?_undergo hr .cancelled

theorem Fit.shutDown (h : w.Fit) : w.shutDown.Fit where
  calm := by
    intro f hf
    obtain ⟨old, hold, rfl⟩ := List.mem_map.mp hf
    exact (h.calm old hold).cancelRequests.1.cancelTask
  requests _ _ hm := by cases hm
  timers _ ht := by cases ht

/-- A runtime that is gone looks for no result and runs nothing; what an executor keeps stays. -/
theorem Holds.shutDown (h : w.Holds v early lost place) : w.shutDown.Follows v early lost place := by
  have hlength : w.shutDown.flows.length = w.flows.length := List.length_map ..
  have hdocket : w.shutDown.docket v.name = { kept := (place.docket v).kept } := by
    rw [← h.filterMap_kept]
    rfl
  have hat : ∀ place' : Place ρ, place'.docket v = { kept := (place.docket v).kept } →
      place'.calls = place.calls → w.shutDown.At v place' := by
    intro place' hd hc
    refine ⟨h.fit.shutDown, hdocket.trans hd.symm, h.called.trans hc.symm, ?_⟩
    rw [hlength]
    exact h.bound
  have hknown : ∀ r, w.known? v.handle = some r → w.shutDown.known? v.handle = some r :=
    fun _ => known?_mono fun _ _ => h.fit.joined?_shutDown
  have hstill : ∀ r, early = some r → w.shutDown.known? v.handle = some r :=
    fun r hr => hknown r (h.still r hr)
  cases place with
  | kept r => exact ⟨.kept r, nofun, hat _ rfl rfl, h.apt.mono hknown (fun _ => rfl) nofun, hstill⟩
  | called r =>
    exact ⟨.called r, nofun, hat _ rfl rfl, h.apt.mono hknown (fun _ => rfl) nofun, hstill⟩
  | _ => exact ⟨.gone, fun _ => rfl, hat _ rfl rfl, .inr (.inl rfl), hstill⟩

/-- The task of an execution is aborted from outside. -/
def abort (w : World ρ) (task : Nat) : World ρ :=
  (w.modifyFlow task Flow.cancelTask).wakeWatchers task

theorem Holds.abort (h : w.Holds v early lost place) (task : Nat) :
    (w.abort task).Follows v early lost place := by
  refine h.ends (Works.cancelTask w task) fun r hr => ?_
  rw [joined?_eq] at hr ⊢
  obtain ⟨f, hf, hr⟩ := Option.bind_eq_some_iff.mp hr
  rw [World.modifyFlow, List.getElem?_modify_eq, hf]
  exact Flow.joined?_undergo hr .cancelled

/-! Callbacks are registered, and executions begin. -/

/-- New callbacks, of a name that was free. -/
theorem At.register {u : Watcher ρ} (h : w.At u .gone) (hn : u.name = v.name)
    (hb : ∀ task, v.handle = .inFlight task → task < w.flows.length) :
    (w.enqueue (.watch v)).Holds v (w.known? v.handle) lost .queued := by
  refine ⟨⟨h.fit.enqueue nofun, ?_, ?_, hb⟩, trivial, fun _ hr => hr⟩
  · rw [docket_enqueue, ← hn, h.docket]
    simp [Job.watcher?, Job.completion?, Place.docket, hn]
  · rw [← hn]
    exact h.called

theorem Works.register (w : World ρ) {name : String} {u : Watcher ρ} (hn : u.name ≠ name) :
    Works name none [] w (w.enqueue (.watch u)) :=
  Works.enqueue w (if_neg hn) rfl nofun

/-- A new execution with the jobs of its requests. -/
theorem Holds.launch (h : w.Holds v early lost place) {f : Flow ρ} (hf : f.Calm)
    {jobs : List (Job ρ)}
    (hj : ∀ j ∈ jobs, ∃ position, j = .request w.flows.length position ∧ f.fanOut = true) :
    Holds v early lost place { w with flows := w.flows ++ [f], queue := w.queue ++ jobs } := by
  have hold : ∀ {task : Nat} {g : Flow ρ}, w.flows[task]? = some g →
      (w.flows ++ [f])[task]? = some g := fun hg =>
    (List.getElem?_append_left (List.getElem?_eq_some_iff.mp hg).1).trans hg
  have hw : jobs.filterMap (Job.watcher? v.name) = [] := by
    rw [List.filterMap_eq_nil_iff]
    intro j hmem
    obtain ⟨position, rfl, -⟩ := hj j hmem
    rfl
  have hc : jobs.filterMap (Job.completion? v.name) = [] := by
    rw [List.filterMap_eq_nil_iff]
    intro j hmem
    obtain ⟨position, rfl, -⟩ := hj j hmem
    rfl
  have hsame : World.known? { w with flows := w.flows ++ [f], queue := w.queue ++ jobs }
      v.handle = w.known? v.handle := by
    apply known?_congr
    intro task ht
    simp only [joined?_eq, List.getElem?_append_left (h.bound task ht)]
  refine ⟨⟨?_, ?_, h.called, ?_⟩, ?_, ?_⟩
  · refine ⟨fun g hg => ?_, fun id position hm => ?_, h.fit.timers⟩
    · rcases List.mem_append.mp hg with hg | hg
      · exact h.fit.calm g hg
      · exact List.mem_singleton.mp hg ▸ hf
    · rcases List.mem_append.mp hm with hm | hm
      · rcases List.mem_append.mp hm with hm | hm
        · obtain ⟨g, hg, hfan⟩ := h.fit.requests id position (List.mem_append_left _ hm)
          exact ⟨g, hold hg, hfan⟩
        · obtain ⟨place, he, hfan⟩ := hj _ hm
          cases he
          exact ⟨f, List.getElem?_concat_length, hfan⟩
      · obtain ⟨g, hg, hfan⟩ := h.fit.requests id position (List.mem_append_right _ hm)
        exact ⟨g, hold hg, hfan⟩
  · rw [← h.docket]
    simp only [World.docket, List.filterMap_append, hw, hc, List.append_nil]
  · intro task ht
    have hlt := h.bound task ht
    simp only [List.length_append]
    omega
  · rw [hsame]
    exact h.apt
  · rw [hsame]
    exact h.still

end World
end CqlOperations.Simulation
