import CqlOperations.Proofs.Simulation.Orders
import CqlOperations.Proofs.Simulation.Places

/-! What the calls of a program do to callbacks that it registered: they go on their way, or the call
has nothing to do with them. No call touches the execution they wait for, since whoever holds its
handle can only look at it. -/
namespace CqlOperations.Pending

variable {τ ρ : Type}

/-- A wait leaves a handle as it is or takes the result. -/
theorem of_wait_eq_inFlight {before after : τ → Option (Result ρ)} {p : Pending τ ρ} {task : τ}
    (h : (p.wait before after).1 = .inFlight task) : p = .inFlight task := by
  cases p with
  | ready r => simp [wait, poll] at h
  | consumed => simp [wait, poll] at h
  | inFlight other =>
    simp only [wait, poll] at h
    cases hb : before other <;> cases ha : after other <;> simp_all

theorem of_waitWithin_eq_inFlight {before after : τ → Option (Result ρ)} {p : Pending τ ρ}
    {limit : Duration} {task : τ} (h : (p.waitWithin limit before after).1 = .inFlight task) :
    p = .inFlight task := by
  have hw : (p.wait before after).1 = .inFlight task := by
    unfold waitWithin at h
    cases hw : p.wait before after with
    | mk q found? => cases found? <;> simp_all
  exact of_wait_eq_inFlight hw

end CqlOperations.Pending

namespace CqlOperations.Simulation

namespace Scene

variable {ρ : Type} {v : Watcher ρ} {early : Option (Result ρ)} {lost : Prop} {place : Place ρ}
  {s t : Scene ρ}

/-- An execution that there is, and that no handle polls. -/
structure Free (s : Scene ρ) (task : Nat) : Prop where
  bound : task < s.world.flows.length
  apart : ∀ name, (name, Handle.started task) ∉ s.handles

/-- The execution is what the callbacks or some handle wait for. -/
def Claims (v : Watcher ρ) (s : Scene ρ) (task : Nat) : Prop :=
  v.handle = .inFlight task ∨ ∃ name, (name, Handle.pending (.inFlight task)) ∈ s.handles

/-- The callbacks are there, and nobody else's handle can touch what they wait for. -/
structure Minds (v : Watcher ρ) (early : Option (Result ρ)) (lost : Prop) (place : Place ρ)
    (s : Scene ρ) : Prop where
  holds : s.world.Holds v early lost place
  free : ∀ task, s.Claims v task → s.Free task
  started : ∀ name flow, (name, Handle.started flow) ∈ s.handles → flow < s.world.flows.length

/-- The callbacks have got on from there. -/
def Follows (v : Watcher ρ) (early : Option (Result ρ)) (lost : Prop) (place : Place ρ)
    (s : Scene ρ) : Prop :=
  ∃ place', (place = .gone → place' = .gone) ∧ s.Minds v early lost place'

theorem Minds.follows (h : s.Minds v early lost place) : s.Follows v early lost place :=
  ⟨place, fun hg => hg, h⟩

theorem Follows.bind (h : s.Follows v early lost place)
    (hn : ∀ place', s.Minds v early lost place' → t.Follows v early lost place') :
    t.Follows v early lost place := by
  obtain ⟨middle, hm, hh⟩ := h
  obtain ⟨place', hp, hh'⟩ := hn middle hh
  exact ⟨place', fun hg => hp (hm hg), hh'⟩

theorem prefix_of_orders (h : t.world.orders = s.world.orders) :
    s.world.orders <+: t.world.orders :=
  h ▸ List.prefix_rfl

theorem length_le_of_orders (h : s.world.orders <+: t.world.orders) :
    s.world.flows.length ≤ t.world.flows.length := by
  simpa only [World.orders, List.length_map] using h.length_le

theorem Free.mono {task : Nat} (h : s.Free task) (ho : s.world.orders <+: t.world.orders)
    (hs : t.handles ⊆ s.handles) : t.Free task :=
  ⟨Nat.lt_of_lt_of_le h.bound (length_le_of_orders ho), fun name hm => h.apart name (hs hm)⟩

/-- There may be more executions than before, but not more handles. -/
theorem Minds.hold {u : Watcher ρ} (h : s.Minds v early lost place)
    (hu : ∀ task, u.handle = .inFlight task → s.Free task) {early' : Option (Result ρ)}
    {lost' : Prop} {place' : Place ρ} (hw : t.world.Holds u early' lost' place')
    (ho : s.world.orders <+: t.world.orders) (hs : t.handles ⊆ s.handles) :
    t.Minds u early' lost' place' where
  holds := hw
  free task hc := by
    have hfree : s.Free task := by
      rcases hc with ht | ⟨name, hm⟩
      · exact hu task ht
      · exact h.free task (.inr ⟨name, hs hm⟩)
    exact hfree.mono ho hs
  started name flow hm :=
    Nat.lt_of_lt_of_le (h.started name flow (hs hm)) (length_le_of_orders ho)

theorem Minds.of_holds (h : s.Minds v early lost place) {place' : Place ρ}
    (hw : t.world.Holds v early lost place') (ho : s.world.orders <+: t.world.orders)
    (hs : t.handles ⊆ s.handles) : t.Minds v early lost place' :=
  h.hold (fun task ht => h.free task (.inl ht)) hw ho hs

theorem Minds.of_follows (h : s.Minds v early lost place) (hw : t.world.Follows v early lost place)
    (ho : t.world.orders = s.world.orders) (hs : t.handles ⊆ s.handles) :
    t.Follows v early lost place := by
  obtain ⟨place', hp, hh⟩ := hw
  exact ⟨place', hp, h.of_holds hh (prefix_of_orders ho) hs⟩

theorem Minds.same (h : s.Minds v early lost place) (hw : t.world = s.world)
    (hh : t.handles = s.handles) : t.Follows v early lost place := by
  refine Minds.follows ?_
  exact h.of_holds (hw ▸ h.holds) (prefix_of_orders (congrArg World.orders hw))
    (hh ▸ List.Subset.refl _)

theorem mem_of_lookup {name : String} {handle : Handle ρ}
    (h : s.handles.lookup name = some handle) : (name, handle) ∈ s.handles := by
  obtain ⟨before, after, heq, -⟩ := List.lookup_eq_some_iff.mp h
  rw [heq]
  exact List.mem_append_right _ List.mem_cons_self

theorem removeHandle_subset (s : Scene ρ) (name : String) :
    (s.removeHandle name).handles ⊆ s.handles :=
  List.filter_subset_self ..

theorem Minds.removeHandle (h : s.Minds v early lost place) (name : String) :
    (s.removeHandle name).Minds v early lost place :=
  h.of_holds h.holds List.prefix_rfl (s.removeHandle_subset name)

theorem dropHandle_subset (s : Scene ρ) (name : String) :
    (s.dropHandle name).handles ⊆ s.handles := by
  unfold dropHandle
  split
  next => exact removeHandle_subset _ name
  next => exact removeHandle_subset s name

theorem Minds.dropHandle (h : s.Minds v early lost place) (name : String) :
    (s.dropHandle name).Minds v early lost place := by
  refine h.of_holds ?_ (prefix_of_orders (s.orders_dropHandle name))
    (s.dropHandle_subset name)
  unfold Scene.dropHandle
  split
  next flow hl =>
    refine h.holds.of_works (World.Works.dropFlow s.world rfl) ?_
    rintro task ht ⟨rfl⟩
    exact (h.free flow (.inl ht)).apart name (mem_of_lookup hl)
  next => exact h.holds

/-- A handle that waits for an execution cannot touch it. -/
theorem Minds.setPending (h : s.Minds v early lost place) (name : String) {p : Pending Nat ρ}
    (hp : ∀ task, p = .inFlight task → s.Free task) :
    (s.setHandle name (.pending p)).Minds v early lost place := by
  have hd := h.dropHandle name
  have hfree : ∀ task, (s.dropHandle name).Free task →
      (s.setHandle name (.pending p)).Free task := by
    refine fun task hf => ⟨hf.bound, fun other hm => ?_⟩
    rcases List.mem_cons.mp hm with he | hm
    · cases he
    · exact hf.apart other hm
  refine ⟨hd.holds, fun task hc => ?_, fun other flow hm => ?_⟩
  · rcases hc with hv | ⟨other, hm⟩
    · exact hfree task (hd.free task (.inl hv))
    · rcases List.mem_cons.mp hm with he | hm
      · cases he
        exact hfree task ((hp task rfl).mono (prefix_of_orders (s.orders_dropHandle name))
          (s.dropHandle_subset name))
      · exact hfree task (hd.free task (.inr ⟨other, hm⟩))
  · rcases List.mem_cons.mp hm with he | hm
    · cases he
    · exact hd.started other flow hm

/-- An execution that nobody waits for or polls yet. -/
structure Fresh (v : Watcher ρ) (s : Scene ρ) (id : Nat) : Prop extends s.Free id where
  unclaimed : ¬ s.Claims v id

theorem Fresh.mono {id : Nat} (h : s.Fresh v id) (ho : s.world.orders <+: t.world.orders)
    (hs : t.handles ⊆ s.handles) : t.Fresh v id :=
  ⟨h.toFree.mono ho hs, fun hc => h.unclaimed (hc.imp_right fun ⟨name, hm⟩ => ⟨name, hs hm⟩)⟩

theorem Fresh.ne {id : Nat} (h : s.Fresh v id) {task : Nat} (hv : v.handle = .inFlight task) :
    some id ≠ some task := by
  rintro ⟨rfl⟩
  exact h.unclaimed (.inl hv)

/-- Whoever polls an execution himself is the only one to touch it. -/
theorem Minds.setStarted (h : s.Minds v early lost place) (name : String) {id : Nat}
    (hid : s.Fresh v id) : (s.setHandle name (.started id)).Minds v early lost place := by
  have hd := h.dropHandle name
  have hfresh : (s.dropHandle name).Fresh v id :=
    hid.mono (prefix_of_orders (s.orders_dropHandle name)) (s.dropHandle_subset name)
  refine ⟨hd.holds, fun task hc => ?_, fun other flow hm => ?_⟩
  · have hc : (s.dropHandle name).Claims v task := by
      refine hc.imp_right fun ⟨other, hm⟩ => ⟨other, ?_⟩
      rcases List.mem_cons.mp hm with he | hm
      · cases he
      · exact hm
    refine ⟨(hd.free task hc).bound, fun other hm => ?_⟩
    rcases List.mem_cons.mp hm with he | hm
    · cases he
      exact hfresh.unclaimed hc
    · exact (hd.free task hc).apart other hm
  · rcases List.mem_cons.mp hm with he | hm
    · cases he
      exact hfresh.bound
    · exact hd.started other flow hm

/-- A submission has a new number. -/
theorem holds_launch (h : s.world.Holds v early lost place) (o : Operation String ρ) (path : Path)
    (name : String) : (s.launch o path name).1.world.Holds v early lost place ∧
      ∀ id, (s.launch o path name).2 = .ok id → id = s.world.flows.length ∧
        id < (s.launch o path name).1.world.flows.length := by
  have hne : ∀ task, v.handle = .inFlight task → some s.world.flows.length ≠ some task := by
    intro task ht he
    have := h.bound task ht
    simp only [Option.some.injEq] at he
    omega
  have hworks : ∀ w : World ρ, World.Works v.name (some s.world.flows.length) [] w
      (w.perform s.world.flows.length o.options.taskExecutor name (o.submit path s.state).2.1) :=
    fun w => World.Works.perform w _ _ _ _ rfl
  have hcancel : ∀ (down : Bool) (f : Flow ρ), f.Calm →
      (if down then f.cancelRequests else f).Calm := by
    intro down f hf
    cases down with
    | true => exact hf.cancelRequests.1
    | false => exact hf
  unfold Scene.launch
  dsimp only
  split
  next => exact ⟨h.of_works (hworks _) hne, nofun⟩
  next sub hsub =>
    refine ⟨(World.Holds.launch h (hcancel _ _ fun hfan => ?_) fun j hj => ?_).of_works
      (hworks _) hne, ?_⟩
    · cases hb : o.base with
      | fanOut type creators => exact Operation.awaitsRequest_of_fanOut hsub hb
      | single creator =>
        rw [hb] at hfan
        cases hfan
      | known statement result =>
        rw [hb] at hfan
        cases hfan
    · obtain ⟨hup, hj⟩ := List.mem_ite_nil_right.mp hj
      obtain ⟨position, -, rfl⟩ := List.mem_map.mp hj
      rw [Bool.and_eq_true, Bool.not_eq_true'] at hup
      refine ⟨position, rfl, ?_⟩
      rw [hup.2]
      exact hup.1
    · rintro id ⟨rfl⟩
      refine ⟨rfl, ?_⟩
      rw [(hworks _).length, List.length_append]
      exact Nat.lt_succ_self _

/-- A submission begins an execution of its own, if it begins one. -/
theorem Minds.launch (h : s.Minds v early lost place) (o : Operation String ρ) (path : Path)
    (name : String) :
    (s.launch o path name).1.Minds v early lost place ∧
      ∀ id, (s.launch o path name).2 = .ok id → (s.launch o path name).1.Fresh v id := by
  have hhandles := (s.launch_spec o path name).2
  obtain ⟨hholds, hnumber⟩ := holds_launch h.holds o path name
  refine ⟨h.of_holds hholds (s.prefix_launch o path name) (hhandles ▸ List.Subset.refl _),
    fun id hid => ?_⟩
  obtain ⟨rfl, hbound⟩ := hnumber id hid
  refine ⟨⟨hbound, fun other hm => ?_⟩, fun hc => ?_⟩
  · rw [hhandles] at hm
    exact Nat.lt_irrefl _ (h.started other _ hm)
  · have hc : s.Claims v s.world.flows.length := by
      refine hc.imp_right fun ⟨other, hm⟩ => ⟨other, ?_⟩
      rwa [hhandles] at hm
    exact Nat.lt_irrefl _ (h.free _ hc).bound

theorem Minds.spawn (h : s.Minds v early lost place) {id : Nat}
    (hid : ∀ task, v.handle = .inFlight task → some id ≠ some task) :
    (s.spawn id).Minds v early lost place := by
  refine h.of_holds ?_ (prefix_of_orders (s.orders_spawn id))
    ((s.spawn_spec id).2 ▸ List.Subset.refl _)
  unfold Scene.spawn
  split
  next => exact h.holds.of_works (World.Works.cancelTask s.world id) hid
  next => exact h.holds.of_aside (World.Works.wake s.world id)

theorem Minds.drive (h : s.Minds v early lost place) {id : Nat}
    (hid : ∀ task, v.handle = .inFlight task → some id ≠ some task) :
    (s.drive id).1.Follows v early lost place := by
  have hdriven := h.holds.driveFlow id
  have hhandles : (s.drive id).1.handles = s.handles := by
    unfold Scene.drive
    dsimp only
    split <;> rfl
  refine h.of_follows ?_ (s.orders_drive id) (hhandles ▸ List.Subset.refl _)
  unfold Scene.drive
  dsimp only
  split
  next => exact hdriven
  next => exact hdriven
  next =>
    exact hdriven.bind fun _ hh => (hh.of_works (World.Works.dropFlow _ rfl) hid).follows

/-- The handle to a submission cannot touch it. -/
theorem Minds.submit (h : s.Minds v early lost place) (o : Operation String ρ) :
    (s.submit o).1.Minds v early lost place ∧ ∀ p, (s.submit o).2 = .ok p →
      ∀ task, p = .inFlight task → (s.submit o).1.Free task := by
  obtain ⟨hlaunched, hfresh⟩ := h.launch o .caller ""
  unfold Scene.submit
  cases hl : s.launch o .caller "" with
  | mk t launched =>
    rw [hl] at hlaunched hfresh
    cases launched with
    | error error => exact ⟨hlaunched, fun p hp => by cases hp⟩
    | ok id =>
      have hid := hfresh id rfl
      dsimp only
      split
      next =>
        refine ⟨hlaunched, fun p hp task ht => ?_⟩
        rw [← Except.ok.inj hp] at ht
        cases ht
      next =>
        refine ⟨hlaunched.spawn fun _ => hid.ne, fun p hp task ht => ?_⟩
        rw [← Except.ok.inj hp] at ht
        cases ht
        exact hid.toFree.mono (prefix_of_orders (t.orders_spawn id))
          ((t.spawn_spec id).2 ▸ List.Subset.refl _)

theorem Minds.execute (h : s.Minds v early lost place) (o : Operation String ρ) :
    (s.execute o).1.Follows v early lost place := by
  obtain ⟨hlaunched, hfresh⟩ := h.launch o .caller ""
  unfold Scene.execute
  cases hl : s.launch o .caller "" with
  | mk t launched =>
    rw [hl] at hlaunched hfresh
    cases launched with
    | error error => exact hlaunched.follows
    | ok id => exact hlaunched.drive fun _ => (hfresh id rfl).ne

theorem Minds.callback (h : s.Minds v early lost place) (o : Operation String ρ) (name : String) :
    (s.callback o name).1.Minds v early lost place := by
  obtain ⟨hlaunched, hfresh⟩ := h.launch o .callback name
  unfold Scene.callback
  cases hl : s.launch o .callback name with
  | mk t launched =>
    rw [hl] at hlaunched hfresh
    cases launched with
    | error error => exact hlaunched
    | ok id => exact hlaunched.spawn fun _ => (hfresh id rfl).ne

theorem Minds.start (h : s.Minds v early lost place) (o : Operation String ρ) (name : String) :
    (s.start o name).1.Follows v early lost place := by
  obtain ⟨hlaunched, hfresh⟩ := h.launch o .caller ""
  unfold Scene.start
  cases hl : s.launch o .caller "" with
  | mk t launched =>
    rw [hl] at hlaunched hfresh
    cases launched with
    | error error => exact hlaunched.follows
    | ok id =>
      have hid := hfresh id rfl
      have hpolled : (t.mapWorld (·.pollFlow id)).Follows v early lost place :=
        hlaunched.of_follows (hlaunched.holds.pollFlow id) (t.world.orders_pollFlow id)
          (List.Subset.refl _)
      dsimp only
      split
      next => exact hpolled
      next => exact hpolled
      next =>
        refine hpolled.bind fun place' hh => Minds.follows ?_
        have hworks : World.Works v.name (some id) [] (t.world.pollFlow id)
            ((t.world.pollFlow id).modifyFlow id fun flow => { flow with mode := .shelved }) :=
          World.Works.modifyFlow _ id (fun _ => rfl) (fun _ hcalm => hcalm) (.inl rfl)
        have hshelved := World.orders_modifyFlow (t.world.pollFlow id) id
          (g := fun flow => { flow with mode := .shelved }) fun _ => rfl
        apply Minds.setStarted
        · exact hh.of_holds (hh.holds.of_works hworks fun _ => hid.ne) (prefix_of_orders hshelved)
            (List.Subset.refl _)
        · exact hid.mono (prefix_of_orders (hshelved.trans (t.world.orders_pollFlow id)))
            (List.Subset.refl _)

/-- Who waits for a handle keeps it, or one that was used up. -/
theorem Minds.awaitPending (h : s.Minds v early lost place) (p : Pending Nat ρ)
    (limit : Option Duration) :
    (s.awaitPending p limit).1.Follows v early lost place ∧
      (s.awaitPending p limit).1.handles = s.handles ∧
      ∀ task, (s.awaitPending p limit).2.1 = .inFlight task → p = .inFlight task := by
  obtain ⟨world, hworld, heq⟩ := s.awaitPending_eq p limit
  have hfollows : world.Follows v early lost place := by
    rcases hworld with rfl | ⟨task, time, rfl⟩
    · exact h.holds.follows
    · exact h.holds.waitFor task _
  refine ⟨?_, by rw [heq], ?_⟩
  · refine h.of_follows ?_ (s.orders_awaitPending p limit) ?_
    · rw [heq]
      exact hfollows
    · rw [heq]
      exact List.Subset.refl _
  · intro task
    unfold Scene.awaitPending
    dsimp only
    split
    next => exact Pending.of_waitWithin_eq_inFlight
    next =>
      split
      next heq =>
        intro ht
        apply Pending.of_wait_eq_inFlight
        rw [heq]
        exact ht
      next heq =>
        intro ht
        apply Pending.of_wait_eq_inFlight
        rw [heq]
        exact ht

theorem Minds.awaitInContext (h : s.Minds v early lost place) (p : Pending Nat ρ)
    (limit : Option Duration) :
    (s.awaitInContext p limit).1.Follows v early lost place ∧
      (s.awaitInContext p limit).1.handles = s.handles ∧
      ∀ task, (s.awaitInContext p limit).2.1 = .inFlight task → p = .inFlight task := by
  unfold Scene.awaitInContext
  split
  next => exact ⟨h.follows, rfl, fun _ ht => ht⟩
  next => exact h.awaitPending p limit

theorem Minds.executeDetached (h : s.Minds v early lost place) (o : Operation String ρ)
    (limit : Option Duration) : (s.executeDetached o limit).1.Follows v early lost place := by
  obtain ⟨hsubmitted, -⟩ := h.submit o
  unfold Scene.executeDetached
  cases hs : s.submit o with
  | mk t submitted =>
    rw [hs] at hsubmitted
    cases submitted with
    | error error => exact hsubmitted.follows
    | ok handle => exact (hsubmitted.awaitInContext handle limit).1

theorem Minds.withOperation (h : s.Minds v early lost place) (id : String)
    {f : Scene ρ → Operation String ρ → Scene ρ × Answer ρ}
    (hf : ∀ o, (f s o).1.Follows v early lost place) :
    (s.withOperation id f).1.Follows v early lost place := by
  unfold Scene.withOperation
  split
  next o _ => exact hf o
  next => exact h.follows

theorem Minds.withPending (h : s.Minds v early lost place) (name : String)
    {f : Scene ρ → Pending Nat ρ → Scene ρ × Answer ρ}
    (hf : ∀ p, (name, .pending p) ∈ s.handles → (f s p).1.Follows v early lost place) :
    (s.withPending name f).1.Follows v early lost place := by
  unfold Scene.withPending
  split
  next p hl => exact hf p (mem_of_lookup hl)
  next => exact (h.dropHandle name).follows

/-- A handle is put back as the wait for it left it. -/
theorem Follows.putBack (h : s.Follows v early lost place) {name : String} {p q : Pending Nat ρ}
    (hp : (name, .pending p) ∈ s.handles) (hq : ∀ task, q = .inFlight task → p = .inFlight task) :
    (s.setHandle name (.pending q)).Follows v early lost place := by
  refine h.bind fun place' hm => (hm.setPending name fun task ht => ?_).follows
  obtain rfl := hq task ht
  exact hm.free task (.inr ⟨name, hp⟩)

theorem Minds.join (h : s.Minds v early lost place) {name : String} {p : Pending Nat ρ}
    (hp : (name, .pending p) ∈ s.handles) (limit : Option Duration) :
    (s.join name p limit).1.Follows v early lost place := by
  obtain ⟨hawaited, hhandles, hq⟩ := h.awaitInContext p limit
  exact hawaited.putBack (hhandles ▸ hp) hq

theorem Minds.block (h : s.Minds v early lost place) (name : String) (limit : Option Duration)
    (consume : Bool) : (s.block name limit consume).1.Follows v early lost place := by
  refine h.withPending name fun p hp => ?_
  obtain ⟨hawaited, hhandles, hq⟩ := h.awaitPending p limit
  dsimp only
  split
  next => exact h.follows
  next =>
    cases consume with
    | true => exact hawaited.bind fun _ hm => (hm.removeHandle name).follows
    | false => exact hawaited.putBack (hhandles ▸ hp) hq

end Scene

variable {ρ : Type}

/-- A step that registers callbacks under this name. -/
def Step.Registers (name : String) : Step ρ → Prop
  | .onComplete handle _ => handle = name
  | _ => False

namespace Scene

variable {v : Watcher ρ} {early : Option (Result ρ)} {lost : Prop} {place : Place ρ} {s : Scene ρ}

/-- An executor lets go of a task that it kept for these callbacks and has not run. -/
def Loses (s : Scene ρ) (name : String) : Step ρ → Prop
  | .dropKept => (s.world.docket name).kept ≠ []
  | .runKept =>
    (s.world.docket name).kept ≠ [] ∧ (s.step .runKept).1.world.called name = []
  | _ => False

/-- Then they are gone. -/
theorem Minds.loses (h : s.Minds v early lost place) {step : Step ρ}
    (hs : s.Loses v.name step) (hl : lost) : (s.step step).1.Minds v early lost .gone := by
  cases step with
  | runKept =>
    obtain ⟨hk, hcalled⟩ := hs
    obtain ⟨r, rfl⟩ := h.holds.exists_kept hk
    rw [step_runKept] at hcalled ⊢
    rcases h.holds.runKept_cases with hh | ⟨-, hgone⟩
    · rw [hh.called] at hcalled
      cases hcalled
    · exact h.of_holds (hgone hl) (prefix_of_orders (World.orders_runKept _ _))
        (List.Subset.refl _)
  | dropKept =>
    obtain ⟨r, rfl⟩ := h.holds.exists_kept hs
    exact h.of_holds (h.holds.letGo hl) (prefix_of_orders (World.orders_dropTasks _ _))
      (List.Subset.refl _)
  | _ => cases hs

/-- Every step takes the callbacks on, if at all, unless others are registered under their name. -/
theorem Minds.step (h : s.Minds v early lost place) {step : Step ρ} (hr : ¬ step.Registers v.name)
    (hl : s.Loses v.name step → lost) : (s.step step).1.Follows v early lost place := by
  cases step with
  | make id blueprint modifications =>
    obtain ⟨hworld, hhandles⟩ := s.make_spec id blueprint modifications
    exact h.same hworld hhandles
  | execute id => exact h.withOperation id h.execute
  | executeWithin id limit => exact h.withOperation id fun o => h.executeDetached o (some limit)
  | executeText text => exact h.execute _
  | toStatement id =>
    refine h.withOperation id fun o => ?_
    split
    next => exact h.same rfl rfl
    next => exact h.same rfl rfl
  | options id => exact h.withOperation id fun _ => h.follows
  | submit id name =>
    refine h.withOperation id fun o => ?_
    obtain ⟨hsubmitted, hfree⟩ := h.submit o
    cases hs : s.submit o with
    | mk t submitted =>
      rw [hs] at hsubmitted hfree
      cases submitted with
      | error error => exact hsubmitted.follows
      | ok handle => exact (hsubmitted.setPending name (hfree handle rfl)).follows
  | start id name => exact h.withOperation id fun o => h.start o name
  | callback id name => exact h.withOperation id fun o => (h.callback o name).follows
  | isFinished name => exact h.withPending name fun _ _ => h.follows
  | join name =>
    simp only [Scene.step]
    split
    next flow hs =>
      have hne : ∀ task, v.handle = .inFlight task → some flow ≠ some task := by
        rintro task ht ⟨rfl⟩
        exact (h.free flow (.inl ht)).apart name (mem_of_lookup hs)
      have hworks : World.Works v.name (some flow) [] s.world
          (s.world.modifyFlow flow fun flow => { flow with mode := .running }) :=
        World.Works.modifyFlow _ flow (fun _ => rfl) (fun _ hcalm => hcalm) (.inl rfl)
      apply Minds.drive _ hne
      exact h.of_holds (h.holds.of_works hworks hne)
        (prefix_of_orders (s.world.orders_modifyFlow flow fun _ => rfl))
        (s.removeHandle_subset name)
    next => exact h.withPending name fun p hp => h.join hp none
  | joinWithin name limit => exact h.withPending name fun p hp => h.join hp (some limit)
  | onComplete name executor =>
    refine h.withPending name fun p _ => ?_
    have hremoved := h.removeHandle name
    have hn : name ≠ v.name := hr
    dsimp only
    split
    next => exact hremoved.follows
    next =>
      refine Minds.follows ?_
      exact hremoved.of_holds (hremoved.holds.of_aside (World.Works.register _ hn))
        List.prefix_rfl (List.Subset.refl _)
  | block name => exact h.block name none true
  | blockWithin name limit => exact h.block name (some limit) false
  | drop name => exact (h.dropHandle name).follows
  | advance milliseconds =>
    simp only [Scene.step, sleep]
    split
    next => exact h.follows
    next =>
      exact h.of_follows (h.holds.runUntil _ _ _) (s.world.orders_sleepUntil _) (List.Subset.refl _)
  | release key =>
    refine Minds.follows ?_
    exact h.of_holds (h.holds.of_aside (World.Works.release s.world key))
      (prefix_of_orders (s.world.orders_release key)) (List.Subset.refl _)
  | runKept =>
    have hran := h.holds.runKept fun r hp hcalled => hl ⟨(hp ▸ h).holds.kept_ne_nil, by
      rw [step_runKept]
      exact hcalled⟩
    rw [step_runKept]
    exact h.of_follows hran (World.orders_runKept _ _) (List.Subset.refl _)
  | dropKept =>
    have hdropped := h.holds.dropKept fun r hp => hl (hp ▸ h).holds.kept_ne_nil
    exact h.of_follows hdropped (World.orders_dropTasks _ _) (List.Subset.refl _)
  | setState text => exact h.same rfl rfl
  | setDefaults options => exact h.same rfl rfl
  | describeTemplate => exact h.follows
  | translate error => exact h.follows
  | shutDown =>
    exact h.of_follows h.holds.shutDown s.world.orders_shutDown (List.Subset.refl _)

end Scene
end CqlOperations.Simulation
