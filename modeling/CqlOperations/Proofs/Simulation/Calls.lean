import CqlOperations.Proofs.Simulation.Trajectory
import CqlOperations.Simulation.Run

/-! What the calls of a program do to a world: each is over within a moment, or it lets the world
run. No script makes a timer overdue. -/
namespace CqlOperations.Simulation.Scene

variable {ρ : Type} {s : Scene ρ}

theorem launch_spec (s : Scene ρ) (o : Operation String ρ) (path : Path) (name : String) :
    s.world.Moment (s.launch o path name).1.world ∧
      (s.launch o path name).1.handles = s.handles := by
  unfold launch
  dsimp only
  split
  next => exact ⟨World.Moment.perform s.world _ _ name _, rfl⟩
  next submission _ =>
    refine ⟨?_, rfl⟩
    apply World.Moment.trans _ (World.Moment.perform _ _ _ name _)
    exact .of_eq rfl rfl rfl

theorem spawn_spec (s : Scene ρ) (id : Nat) :
    s.world.Moment (s.spawn id).world ∧ (s.spawn id).handles = s.handles := by
  unfold spawn
  split
  next => exact ⟨.of_eq rfl rfl rfl, rfl⟩
  next => exact ⟨World.Moment.wake s.world id, rfl⟩

theorem submit_spec (s : Scene ρ) (o : Operation String ρ) :
    s.world.Moment (s.submit o).1.world ∧ (s.submit o).1.handles = s.handles := by
  obtain ⟨hmoment, hhandles⟩ := s.launch_spec o .caller ""
  unfold submit
  cases hl : s.launch o .caller "" with
  | mk t launched =>
    rw [hl] at hmoment hhandles
    cases launched with
    | error error => exact ⟨hmoment, hhandles⟩
    | ok id =>
      obtain ⟨hspawned, hkept⟩ := t.spawn_spec id
      dsimp only
      split
      next => exact ⟨hmoment, hhandles⟩
      next => exact ⟨hmoment.trans hspawned, hkept.trans hhandles⟩

/-- A wait for a handle does nothing but let the world run, if anything. -/
theorem awaitPending_eq (s : Scene ρ) (handle : Pending Nat ρ) (limit : Option Duration) :
    ∃ world, (world = s.world ∨ ∃ task time, world = s.world.waitFor task (s.world.now + time)) ∧
      (s.awaitPending handle limit).1 = { s with world } := by
  have hrun : ∀ task time, ∃ world,
      (world = s.world ∨ ∃ task time, world = s.world.waitFor task (s.world.now + time)) ∧
        (if s.world.down then s.world else s.world.waitFor task (s.world.now + time)) = world := by
    intro task time
    split
    next => exact ⟨_, .inl rfl, rfl⟩
    next => exact ⟨_, .inr ⟨task, time, rfl⟩, rfl⟩
  unfold awaitPending
  cases handle with
  | inFlight task =>
    obtain ⟨world, hworld, heq⟩ := hrun task
      (((limit.filter (·.ceilMilliseconds ≤ patience)).map Duration.ceilMilliseconds).getD patience)
    refine ⟨world, hworld, ?_⟩
    dsimp only
    rw [heq]
    split
    next => rfl
    next => split <;> rfl
  | ready result =>
    refine ⟨_, .inl rfl, ?_⟩
    dsimp only
    split
    next => rfl
    next => split <;> rfl
  | consumed =>
    refine ⟨_, .inl rfl, ?_⟩
    dsimp only
    split
    next => rfl
    next => split <;> rfl

theorem awaitPending_spec (hp : s.world.Punctual) (handle : Pending Nat ρ)
    (limit : Option Duration) :
    (s.awaitPending handle limit).1.handles = s.handles ∧
      s.world.RunsOn (s.awaitPending handle limit).1.world := by
  obtain ⟨world, hworld, heq⟩ := s.awaitPending_eq handle limit
  rw [heq]
  refine ⟨rfl, ?_⟩
  rcases hworld with rfl | ⟨task, time, rfl⟩
  · exact .refl hp
  · exact World.runsOn_waitFor hp task _

theorem awaitInContext_spec (hp : s.world.Punctual) (handle : Pending Nat ρ)
    (limit : Option Duration) :
    (s.awaitInContext handle limit).1.handles = s.handles ∧
      s.world.RunsOn (s.awaitInContext handle limit).1.world := by
  unfold awaitInContext
  split
  next => exact ⟨rfl, .refl hp⟩
  next => exact awaitPending_spec hp handle limit

theorem moment_dropHandle (s : Scene ρ) (name : String) :
    s.world.Moment (s.dropHandle name).world := by
  unfold dropHandle
  split
  next flow _ => exact World.Moment.dropFlow s.world flow
  next => exact .refl s.world

theorem moment_setHandle (s : Scene ρ) (name : String) (handle : Handle ρ) :
    s.world.Moment (s.setHandle name handle).world :=
  s.moment_dropHandle name

theorem moment_callback (s : Scene ρ) (o : Operation String ρ) (name : String) :
    s.world.Moment (s.callback o name).1.world := by
  obtain ⟨hmoment, -⟩ := s.launch_spec o .callback name
  unfold callback
  cases hl : s.launch o .callback name with
  | mk t launched =>
    rw [hl] at hmoment
    cases launched with
    | error error => exact hmoment
    | ok id => exact hmoment.trans (t.spawn_spec id).1

/-- An operation that is polled once, and kept if it is not over. -/
theorem moment_start (s : Scene ρ) (o : Operation String ρ) (name : String) :
    s.world.Moment (s.start o name).1.world := by
  obtain ⟨hmoment, -⟩ := s.launch_spec o .caller ""
  unfold start
  cases hl : s.launch o .caller "" with
  | mk t launched =>
    rw [hl] at hmoment
    cases launched with
    | error error => exact hmoment
    | ok id =>
      have hpolled := hmoment.trans (World.Moment.pollFlow t.world id)
      dsimp only
      split
      next => exact hpolled
      next => exact hpolled
      next =>
        have hshelved : (t.world.pollFlow id).Moment ((t.world.pollFlow id).modifyFlow id
            fun flow => { flow with mode := .shelved }) := .of_eq rfl rfl rfl
        refine (hpolled.trans hshelved).trans ?_
        exact moment_setHandle ((t.mapWorld (·.pollFlow id)).mapWorld (·.modifyFlow id
          fun flow => { flow with mode := .shelved })) name (.started id)

theorem step_runKept (s : Scene ρ) : (s.step .runKept).1 =
    { s with world := ({ s.world with kept := [] }.runKept s.world.kept).1 } := by
  simp only [step]
  split
  next hrun => rw [hrun]
  next hrun => rw [hrun]

theorem moment_runKept (s : Scene ρ) : s.world.Moment (s.step .runKept).1.world := by
  have htaken : s.world.Moment { s.world with kept := [] } := .of_eq rfl rfl rfl
  rw [step_runKept]
  exact htaken.trans (World.Moment.runKept _ _)

theorem moment_dropKept (s : Scene ρ) : s.world.Moment (s.step .dropKept).1.world := by
  have htaken : s.world.Moment { s.world with kept := [] } := .of_eq rfl rfl rfl
  exact htaken.trans (World.Moment.dropTasks _ _)

/-- Making an operation of a blueprint takes no part in what goes on. -/
theorem make_spec (s : Scene ρ) (id : String) (b : Blueprint ρ)
    (modifications : List (Modification ρ)) :
    (s.make id b modifications).1.world = s.world ∧
      (s.make id b modifications).1.handles = s.handles := by
  have hbuild : (s.build b).1.world = s.world ∧ (s.build b).1.handles = s.handles := by
    cases b with
    | folded type changes creators =>
      simp only [build]
      split <;> exact ⟨rfl, rfl⟩
    | _ => exact ⟨rfl, rfl⟩
  unfold make
  split
  next hb =>
    rw [hb] at hbuild
    exact hbuild
  next hb =>
    rw [hb] at hbuild
    exact hbuild
  next hb =>
    rw [hb] at hbuild
    exact hbuild

theorem world_make (s : Scene ρ) (id : String) (b : Blueprint ρ)
    (modifications : List (Modification ρ)) : (s.make id b modifications).1.world = s.world :=
  (s.make_spec id b modifications).1

theorem punctual_drive (hp : s.world.Punctual) (id : Nat) :
    (s.drive id).1.world.Punctual := by
  have hdriven := World.punctual_driveFlow hp id
  unfold drive
  dsimp only
  split
  next => exact hdriven
  next => exact hdriven
  next => exact (World.Moment.dropFlow _ id).punctual hdriven

theorem punctual_execute (hp : s.world.Punctual) (o : Operation String ρ) :
    (s.execute o).1.world.Punctual := by
  obtain ⟨hmoment, -⟩ := s.launch_spec o .caller ""
  unfold execute
  cases hl : s.launch o .caller "" with
  | mk t launched =>
    rw [hl] at hmoment
    cases launched with
    | error error => exact hmoment.punctual hp
    | ok id => exact punctual_drive (hmoment.punctual hp) id

theorem punctual_executeDetached (hp : s.world.Punctual) (o : Operation String ρ)
    (limit : Option Duration) : (s.executeDetached o limit).1.world.Punctual := by
  obtain ⟨hmoment, -⟩ := s.submit_spec o
  unfold executeDetached
  cases hsub : s.submit o with
  | mk t submitted =>
    rw [hsub] at hmoment
    have hpt := hmoment.punctual hp
    cases submitted with
    | error error => exact hpt
    | ok handle => exact (awaitInContext_spec hpt handle limit).2.punctual

theorem punctual_withOperation (hp : s.world.Punctual) (id : String)
    {f : Scene ρ → Operation String ρ → Scene ρ × Answer ρ}
    (hf : ∀ o, (f s o).1.world.Punctual) : (s.withOperation id f).1.world.Punctual := by
  unfold withOperation
  split
  next o _ => exact hf o
  next => exact hp

theorem punctual_withPending (hp : s.world.Punctual) (name : String)
    {f : Scene ρ → Pending Nat ρ → Scene ρ × Answer ρ}
    (hf : ∀ p, (f s p).1.world.Punctual) : (s.withPending name f).1.world.Punctual := by
  unfold withPending
  split
  next p _ => exact hf p
  next => exact (s.moment_dropHandle name).punctual hp

theorem punctual_join (hp : s.world.Punctual) (name : String) (p : Pending Nat ρ)
    (limit : Option Duration) : (s.join name p limit).1.world.Punctual := by
  have hrun := (awaitInContext_spec hp p limit).2
  exact (moment_setHandle _ name _).punctual hrun.punctual

theorem punctual_block (hp : s.world.Punctual) (name : String) (limit : Option Duration)
    (consume : Bool) : (s.block name limit consume).1.world.Punctual := by
  refine punctual_withPending hp name fun p => ?_
  have hrun := (awaitPending_spec hp p limit).2
  dsimp only
  split
  next => exact hp
  next =>
    cases consume with
    | true => exact hrun.punctual
    | false => exact (moment_setHandle _ name _).punctual hrun.punctual

/-- No step makes a timer overdue. -/
theorem punctual_step (hp : s.world.Punctual) (step : Step ρ) :
    (s.step step).1.world.Punctual := by
  cases step with
  | make id blueprint modifications =>
    change (s.make id blueprint modifications).1.world.Punctual
    rw [world_make]
    exact hp
  | execute id => exact punctual_withOperation hp id (punctual_execute hp)
  | executeWithin id limit =>
    exact punctual_withOperation hp id fun o => punctual_executeDetached hp o (some limit)
  | executeText text => exact punctual_execute hp _
  | toStatement id =>
    refine punctual_withOperation hp id fun o => ?_
    split
    next => exact hp
    next => exact hp
  | options id => exact punctual_withOperation hp id fun _ => hp
  | submit id name =>
    refine punctual_withOperation hp id fun o => ?_
    have hmoment := (s.submit_spec o).1
    cases hsub : s.submit o with
    | mk t submitted =>
      rw [hsub] at hmoment
      cases submitted with
      | error error => exact hmoment.punctual hp
      | ok handle => exact (hmoment.trans (moment_setHandle t name _)).punctual hp
  | start id name =>
    exact punctual_withOperation hp id fun o => (s.moment_start o name).punctual hp
  | callback id name =>
    exact punctual_withOperation hp id fun o => (s.moment_callback o name).punctual hp
  | isFinished name => exact punctual_withPending hp name fun _ => hp
  | join name =>
    simp only [Scene.step]
    split
    next flow _ =>
      apply punctual_drive
      exact hp
    next => exact punctual_withPending hp name fun p => punctual_join hp name p none
  | joinWithin name limit =>
    exact punctual_withPending hp name fun p => punctual_join hp name p (some limit)
  | onComplete name executor =>
    refine punctual_withPending hp name fun p => ?_
    dsimp only
    split
    next => exact hp
    next => exact hp
  | block name => exact punctual_block hp name none true
  | blockWithin name limit => exact punctual_block hp name (some limit) false
  | drop name => exact (s.moment_dropHandle name).punctual hp
  | advance milliseconds =>
    simp only [Scene.step, sleep]
    split
    next => exact hp
    next => exact (World.runsOn_sleepUntil hp (Nat.le_add_right _ _)).punctual
  | release key => exact (World.Moment.release s.world key).punctual hp
  | runKept => exact s.moment_runKept.punctual hp
  | dropKept => exact s.moment_dropKept.punctual hp
  | setState text => exact hp
  | setDefaults options => exact hp
  | describeTemplate => exact hp
  | translate error => exact hp
  | shutDown =>
    intro t ht
    cases ht

/-- The scenes that a script may come to. After each step the world may settle, and what was logged
is taken out. -/
inductive Reached (setup : Setup ρ) : Scene ρ → Prop where
  | setUp : Reached setup (setUp setup)
  | step {s : Scene ρ} (h : Reached setup s) (step : Step ρ) : Reached setup (s.step step).1
  | settle {s : Scene ρ} (h : Reached setup s) : Reached setup (s.mapWorld World.settle)
  | takeEvents {s : Scene ρ} (h : Reached setup s) :
      Reached setup (s.mapWorld fun w => { w with events := [] })

/-- The clock never goes past a timer. -/
theorem Reached.punctual {setup : Setup ρ} (h : Reached setup s) : s.world.Punctual := by
  induction h with
  | setUp =>
    intro t ht
    cases ht
  | step _ step ih => exact punctual_step ih step
  | settle _ ih => exact (World.runsOn_settle ih).punctual
  | takeEvents _ ih => exact ih

end CqlOperations.Simulation.Scene
