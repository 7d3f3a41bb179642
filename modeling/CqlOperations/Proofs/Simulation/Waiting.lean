import CqlOperations.Proofs.Simulation.Calls
import CqlOperations.Proofs.Simulation.Rest

/-! Waiting does not interfere. Whatever a caller does with the handle to an operation, as long as
the runtime lives, what the operation does is the same. -/
namespace CqlOperations.Simulation

variable {ρ : Type}

namespace World

variable {origin w w' : World ρ}

/-- Two points of the course that a world takes by itself. -/
structure OneCourse (w w' : World ρ) : Prop where
  /-- What has happened in one of them is what happened first in the other one, or all of it. -/
  agree : w.events <+: w'.events ∨ w'.events <+: w.events
  /-- At the same time they are the same, once everything has happened that is due by then. -/
  quiet : w.Quiet → w'.Quiet → w.now = w'.now → w = w'
  /-- Left to themselves they come to the same rest, and only their clocks may tell them apart. -/
  ends : ∃ m n, (tick^[m] w).AtRest ∧
    tick^[n] w' = { tick^[m] w with now := (tick^[n] w').now }

private theorem eq_of_quiet {a b : Nat} (hp : origin.Punctual) (hab : a ≤ b)
    (ha : (tick^[a] origin).Idles w) (hb : (tick^[b] origin).Idles w') (hw : w.Quiet)
    (hnow : w.now = w'.now) : w = w' := by
  obtain ⟨d, rfl⟩ := Nat.exists_eq_add_of_le' hab
  rw [Function.iterate_add_apply] at hb
  have hpa := (iterate_tick_spec hp a).1
  have hd := ha.iterate_tick hpa d
  by_cases hr : w.AtRest
  · rw [hr.iterate_tick d] at hd
    rw [hd.eq_now hb, ← hnow]
  · cases d with
    | zero =>
      rw [hd.eq_now hb, ← hnow]
      rfl
    | succ k =>
      -- the second world has ticked on, and its clock with it
      have hrest : ¬ (tick^[a] origin).AtRest :=
        fun h => hr ⟨ha.queue.trans h.1, ha.timers.trans h.2⟩
      have hlt := hw.lt_now_tick hr
      rw [ha.tick_eq hrest] at hlt
      rw [Function.iterate_succ_apply] at hb
      have hle := (iterate_tick_spec (tick_spec hpa).1 k).2.1
      have hlater := hb.later
      omega

private theorem events_agree {a b : Nat} (hp : origin.Punctual) (hab : a ≤ b)
    (ha : (tick^[a] origin).Idles w) (hb : (tick^[b] origin).Idles w') :
    w.events <+: w'.events := by
  obtain ⟨d, rfl⟩ := Nat.exists_eq_add_of_le' hab
  rw [Function.iterate_add_apply] at hb
  rw [ha.events, hb.events]
  exact (iterate_tick_spec (iterate_tick_spec hp a).1 d).2.2

theorem oneCourse_of_runsOn (hp : origin.Punctual) (h : origin.RunsOn w)
    (h' : origin.RunsOn w') : w.OneCourse w' := by
  obtain ⟨a, ha⟩ := h
  obtain ⟨b, hb⟩ := h'
  have hpa := (iterate_tick_spec hp a).1
  have hpb := (iterate_tick_spec hp b).1
  constructor
  · rcases Nat.le_total a b with hab | hba
    · exact .inl (events_agree hp hab ha hb)
    · exact .inr (events_agree hp hba hb ha)
  · intro hw hw' hnow
    rcases Nat.le_total a b with hab | hba
    · exact eq_of_quiet hp hab ha hb hw hnow
    · exact (eq_of_quiet hp hba hb ha hw' hnow.symm).symm
  · -- one world has come to rest after `b + k` ticks, the other one after `a + k`
    obtain ⟨k, hk⟩ := exists_atRest w
    have hrest : (tick^[b + k] w).AtRest := by
      rw [Function.iterate_add_apply, hk.iterate_tick]
      exact hk
    refine ⟨b + k, a + k, hrest, ?_⟩
    have hwb := ha.iterate_tick hpa (b + k)
    have hwa := hb.iterate_tick hpb (a + k)
    rw [← Function.iterate_add_apply] at hwb hwa
    have hsum : b + k + a = a + k + b := by omega
    rw [hsum] at hwb
    exact hwb.eq_now hwa

end World

namespace Step

/-- What a caller may do once it has the handle `name`: wait for it, look at it, let go of it, or
something else for a time. -/
inductive Uses (name : String) : Step ρ → Prop where
  | isFinished : Uses name (.isFinished name)
  | join : Uses name (.join name)
  | joinWithin (limit : Duration) : Uses name (.joinWithin name limit)
  | block : Uses name (.block name)
  | blockWithin (limit : Duration) : Uses name (.blockWithin name limit)
  | drop : Uses name (.drop name)
  | advance (milliseconds : Nat) : Uses name (.advance milliseconds)

/-- What the session and an executor that keeps its tasks may do on their own. -/
inductive Acts : Step ρ → Prop where
  | release (key : String) : Acts (.release key)
  | runKept : Acts .runKept
  | dropKept : Acts .dropKept

end Step

namespace Scene

variable {s : Scene ρ} {name : String}

/-- If there is a handle of that name it is one to a pending result. -/
def Spares (s : Scene ρ) (name : String) : Prop :=
  ∀ flow, s.handles.lookup name ≠ some (.started flow)

theorem lookup_removeHandle (s : Scene ρ) (name : String) :
    (s.removeHandle name).handles.lookup name = none := by
  rw [List.lookup_eq_none_iff]
  intro entry he
  have hne := (List.mem_filter.mp he).2
  simp only [bne_iff_ne, ne_eq] at hne
  simpa using fun heq => hne heq.symm

theorem dropHandle_of_spares (h : s.Spares name) : s.dropHandle name = s.removeHandle name := by
  unfold dropHandle
  split
  next flow hl => exact absurd hl (h flow)
  next => rfl

theorem spares_dropHandle (s : Scene ρ) (name : String) : (s.dropHandle name).Spares name := by
  intro flow
  unfold dropHandle
  split
  next => simp [lookup_removeHandle]
  next => simp [lookup_removeHandle]

theorem spares_setHandle (s : Scene ρ) (name : String) (p : Pending Nat ρ) :
    (s.setHandle name (.pending p)).Spares name := by
  intro flow
  simp [setHandle]

theorem world_dropHandle (h : s.Spares name) : (s.dropHandle name).world = s.world := by
  rw [dropHandle_of_spares h]
  rfl

theorem world_setHandle (h : s.Spares name) (handle : Handle ρ) :
    (s.setHandle name handle).world = s.world := by
  unfold setHandle
  exact world_dropHandle h

theorem lookup_of_spares (h : s.Spares name) :
    s.handles.lookup name = none ∨ ∃ p, s.handles.lookup name = some (.pending p) := by
  cases hl : s.handles.lookup name with
  | none => exact .inl rfl
  | some handle =>
    cases handle with
    | pending p => exact .inr ⟨p, rfl⟩
    | started flow => exact absurd hl (h flow)

theorem spares_of_handles {t : Scene ρ} (hh : t.handles = s.handles) (h : s.Spares name) :
    t.Spares name := by
  intro flow
  rw [hh]
  exact h flow

/-- What is done with a handle to a pending result, if there is one. -/
theorem withPending_spec (hp : s.world.Punctual) (h : s.Spares name)
    {f : Scene ρ → Pending Nat ρ → Scene ρ × Answer ρ}
    (hf : ∀ p, s.world.RunsOn (f s p).1.world ∧ (f s p).1.Spares name) :
    s.world.RunsOn (s.withPending name f).1.world ∧ (s.withPending name f).1.Spares name := by
  unfold withPending
  rcases lookup_of_spares h with hl | ⟨p, hl⟩
  · rw [hl]
    refine ⟨?_, spares_dropHandle s name⟩
    rw [world_dropHandle h]
    exact .refl hp
  · rw [hl]
    exact hf p

theorem join_spec (hp : s.world.Punctual) (h : s.Spares name) (p : Pending Nat ρ)
    (limit : Option Duration) :
    s.world.RunsOn (s.join name p limit).1.world ∧ (s.join name p limit).1.Spares name := by
  obtain ⟨hh, hrun⟩ := awaitInContext_spec hp p limit
  unfold join
  refine ⟨?_, spares_setHandle _ name _⟩
  rw [world_setHandle (spares_of_handles hh h)]
  exact hrun

theorem block_spec (hp : s.world.Punctual) (h : s.Spares name) (limit : Option Duration)
    (consume : Bool) :
    s.world.RunsOn (s.block name limit consume).1.world ∧
      (s.block name limit consume).1.Spares name := by
  refine withPending_spec hp h fun p => ?_
  obtain ⟨hh, hrun⟩ := awaitPending_spec hp p limit
  have hspares := spares_of_handles hh h
  dsimp only
  split
  next => exact ⟨.refl hp, h⟩
  next =>
    cases consume with
    | true =>
      refine ⟨hrun, ?_⟩
      rw [← dropHandle_of_spares hspares]
      exact spares_dropHandle _ name
    | false =>
      simp only [Bool.false_eq_true, if_false]
      refine ⟨?_, spares_setHandle _ name _⟩
      rw [world_setHandle hspares]
      exact hrun

theorem sleep_spec (hp : s.world.Punctual) (h : s.Spares name) (milliseconds : Nat) :
    s.world.RunsOn (s.sleep milliseconds).1.world ∧ (s.sleep milliseconds).1.Spares name := by
  unfold sleep
  split
  next => exact ⟨.refl hp, h⟩
  next => exact ⟨World.runsOn_sleepUntil hp (Nat.le_add_right _ _), h⟩

/-- No use of a handle does anything but let the world run. -/
theorem step_of_uses (hp : s.world.Punctual) (h : s.Spares name) {step : Step ρ}
    (hu : step.Uses name) :
    s.world.RunsOn (s.step step).1.world ∧ (s.step step).1.Spares name := by
  cases hu with
  | isFinished => exact withPending_spec hp h fun p => ⟨.refl hp, h⟩
  | join =>
    simp only [Scene.step]
    split
    next flow hl => exact absurd hl (h flow)
    next => exact withPending_spec hp h fun p => join_spec hp h p none
  | joinWithin limit => exact withPending_spec hp h fun p => join_spec hp h p (some limit)
  | block => exact block_spec hp h none true
  | blockWithin limit => exact block_spec hp h (some limit) false
  | drop =>
    refine ⟨?_, spares_dropHandle s name⟩
    change s.world.RunsOn (s.dropHandle name).world
    rw [world_dropHandle h]
    exact .refl hp
  | advance milliseconds => exact sleep_spec hp h milliseconds

/-- What the session or an executor does on its own is done within a moment, and to the world. -/
theorem step_of_acts {step : Step ρ} (ha : step.Acts) (s : Scene ρ) :
    s.world.Moment (s.step step).1.world ∧ (s.step step).1.handles = s.handles ∧
      ∀ t : Scene ρ, s.world = t.world → (s.step step).1.world = (t.step step).1.world := by
  cases ha with
  | release key =>
    refine ⟨World.Moment.release s.world key, rfl, fun t heq => ?_⟩
    change s.world.release key = t.world.release key
    rw [heq]
  | runKept =>
    refine ⟨moment_runKept s, ?_, fun t heq => ?_⟩
    · rw [step_runKept]
    · rw [step_runKept, step_runKept, heq]
  | dropKept =>
    refine ⟨moment_dropKept s, rfl, fun t heq => ?_⟩
    change s.world.kept.foldl World.dropTask { s.world with kept := [] } =
      t.world.kept.foldl World.dropTask { t.world with kept := [] }
    rw [heq]

/-- Whoever waits for an operation at once, for a limited time, leaves it to the runtime like one who
takes its handle. -/
theorem step_submit_spec (hp : s.world.Punctual) (h : s.Spares name) (id : String) :
    (s.step (.submit id name)).1.world.Punctual ∧ (s.step (.submit id name)).1.Spares name ∧
      ∀ limit, (s.step (.submit id name)).1.world.RunsOn (s.step (.executeWithin id limit)).1.world ∧
        (s.step (.executeWithin id limit)).1.Spares name := by
  simp only [step, withOperation]
  cases s.operations.lookup id with
  | none => exact ⟨hp, h, fun _ => ⟨.refl hp, h⟩⟩
  | some o =>
    obtain ⟨hmoment, hhandles⟩ := s.submit_spec o
    dsimp only
    unfold executeDetached
    cases hsub : s.submit o with
    | mk t submitted =>
      rw [hsub] at hmoment hhandles
      have hpt := hmoment.punctual hp
      have ht := spares_of_handles hhandles h
      cases submitted with
      | error error => exact ⟨hpt, ht, fun _ => ⟨.refl hpt, ht⟩⟩
      | ok handle =>
        dsimp only
        rw [world_setHandle ht]
        refine ⟨hpt, spares_setHandle t name handle, fun limit => ?_⟩
        obtain ⟨hh, hrun⟩ := awaitInContext_spec hpt handle (some limit)
        exact ⟨hrun, spares_of_handles hh ht⟩

/-- Two scenes that come of `s`, where the operation `id` is run, by different uses of its handle
`name`. The session and the executor do the same in both at the same times. -/
inductive Differ (s : Scene ρ) (id name : String) : Scene ρ → Scene ρ → Prop where
  | submitted : Differ s id name (s.step (.submit id name)).1 (s.step (.submit id name)).1
  | within (limit : Duration) :
      Differ s id name (s.step (.submit id name)).1 (s.step (.executeWithin id limit)).1
  | left {t u : Scene ρ} {step : Step ρ} (h : Differ s id name t u) (hu : step.Uses name) :
      Differ s id name (t.step step).1 u
  | right {t u : Scene ρ} {step : Step ρ} (h : Differ s id name t u) (hu : step.Uses name) :
      Differ s id name t (u.step step).1
  | act {t u : Scene ρ} {step : Step ρ} (h : Differ s id name t u) (ha : step.Acts)
      (ht : t.world.Quiet) (hu : u.world.Quiet) (hn : t.world.now = u.world.now) :
      Differ s id name (t.step step).1 (u.step step).1

/-- Both scenes are on one course that some world takes by itself. -/
private theorem Differ.exists_origin {s t u : Scene ρ} {id name : String}
    (h : Differ s id name t u) (hp : s.world.Punctual) (hs : s.Spares name) :
    (∃ origin : World ρ, origin.Punctual ∧ origin.RunsOn t.world ∧ origin.RunsOn u.world) ∧
      t.Spares name ∧ u.Spares name := by
  obtain ⟨hsub, hspares, hwithin⟩ := step_submit_spec hp hs id
  induction h with
  | submitted => exact ⟨⟨_, hsub, .refl hsub, .refl hsub⟩, hspares, hspares⟩
  | within limit =>
    exact ⟨⟨_, hsub, .refl hsub, (hwithin limit).1⟩, hspares, (hwithin limit).2⟩
  | left _ hu ih =>
    obtain ⟨⟨origin, ho, ht, hr⟩, hts, hus⟩ := ih
    obtain ⟨hrun, hkeep⟩ := step_of_uses ht.punctual hts hu
    exact ⟨⟨origin, ho, ht.trans ho hrun, hr⟩, hkeep, hus⟩
  | right _ hu ih =>
    obtain ⟨⟨origin, ho, ht, hr⟩, hts, hus⟩ := ih
    obtain ⟨hrun, hkeep⟩ := step_of_uses hr.punctual hus hu
    exact ⟨⟨origin, ho, ht, hr.trans ho hrun⟩, hts, hkeep⟩
  | @act t u step _ ha hqt hqu hn ih =>
    obtain ⟨⟨origin, ho, ht, hr⟩, hts, hus⟩ := ih
    have heq := (World.oneCourse_of_runsOn ho ht hr).quiet hqt hqu hn
    obtain ⟨hmoment, hth, hworld⟩ := step_of_acts ha t
    obtain ⟨-, huh, -⟩ := step_of_acts ha u
    have hpunctual := hmoment.punctual ht.punctual
    refine ⟨⟨_, hpunctual, .refl hpunctual, ?_⟩, spares_of_handles hth hts,
      spares_of_handles huh hus⟩
    rw [hworld u heq]
    rw [hworld u heq] at hpunctual
    exact .refl hpunctual

/-- Waiting does not interfere: two scenes that differ in what is done with the handle only are on
one course. At the same time they are the same, down to the requests, the processors and the calls
of the failure handler, and so they are in the end. -/
theorem Differ.oneCourse {s t u : Scene ρ} {id name : String} (h : Differ s id name t u)
    (hp : s.world.Punctual) (hs : s.Spares name) : t.world.OneCourse u.world := by
  obtain ⟨⟨origin, ho, ht, hu⟩, -, -⟩ := h.exists_origin hp hs
  exact World.oneCourse_of_runsOn ho ht hu

/-- Every statement is answered after ten milliseconds. -/
def slowSession : Setup Nat where
  treatment _ _ := { delay := some 10, ending := .answered 7 }
  prepare _ := .returned (.ok ())

/-- A scene with a batch of two statements. -/
def slow : Scene Nat :=
  ((setUp slowSession).step (.make "batch" (.batch .unlogged []
    [.statement (.unprepared "first" {} []), .statement (.unprepared "second" {} [])]) [])).1

theorem reached_slow : Reached slowSession slow :=
  .step .setUp _

/-- One caller gives up after five milliseconds, another one awaits the handle, and the requests are
none the wiser. -/
theorem oneCourse_of_slow :
    (slow.step (.executeWithin "batch" ⟨5000000⟩)).2 =
        .result (.error (.waitTimeout ⟨5000000⟩)) ∧
      ((slow.step (.submit "batch" "handle")).1.step (.join "handle")).2 =
        .result (.ok (.batch ⟨[.ok 7, .ok 7]⟩)) ∧
      ((slow.step (.submit "batch" "handle")).1.step (.join "handle")).1.world.OneCourse
        (slow.step (.executeWithin "batch" ⟨5000000⟩)).1.world := by
  refine ⟨rfl, rfl, ?_⟩
  have hdiffer : Differ slow "batch" "handle"
      ((slow.step (.submit "batch" "handle")).1.step (.join "handle")).1
      (slow.step (.executeWithin "batch" ⟨5000000⟩)).1 := .left (.within ⟨5000000⟩) .join
  apply hdiffer.oneCourse reached_slow.punctual
  intro flow hl
  cases hl

end Scene
end CqlOperations.Simulation
