import CqlOperations.Proofs.Simulation.Requests

/-! Jobs and the clock of a world. -/
namespace CqlOperations.Simulation.World

variable {ρ : Type} {a : Allowance ρ} {w : World ρ} {held : List (Task ρ)}
  {past : List (Trace ρ)} {cs : List (Course ρ)} {id : Nat} {t : Task ρ}

theorem signal_eq {f : Flow ρ} (hf : w.flows[id]? = some f) (s : Signal ρ) :
    w.signal id s = ({ w with flows := (w.flows.set id
      { f with execution := (f.execution.handle s).1 }) }, (f.execution.handle s).2) := by
  unfold signal
  rw [hf]

namespace Tracks

/-- The task of an execution is polled, and its course with it. -/
theorem poll (h : Tracks a w held past cs) {f : Flow ρ} (hf : w.flows[id]? = some f) :
    ((w.signal id .polled).1.perform id f.executor f.name (w.signal id .polled).2).GoesOn
      a held past cs := by
  obtain ⟨c, hc, ht⟩ := h.course hf
  cases hw : f.execution.awaitsRequest with
  | true =>
    rw [signal_eq hf, Execution.handle, Execution.poll_of_awaitsRequest hw, set_eq_self hf]
    exact h.goesOn
  | false =>
    obtain ⟨env, he, hd⟩ := h.exists_within ht
    have htold : Tracks a (w.signal id .polled).1 held past (cs.set id (c.tell .polled)) :=
      h.note hc .polled
    have hactions : (w.signal id .polled).2 = c.execution.poll.2 := by
      rw [signal_eq hf, ht.execution]
      rfl
    have hdone := htold.perform (List.getElem?_set_self (List.getElem?_eq_some_iff.mp hc).1) hd
      f.name (hactions ▸ Execution.isTask_poll c.execution)
    rw [List.set_set, hactions] at hdone
    rw [hactions]
    have hreach := Course.Reaches.move (Relation.ReflTransGen.refl (a := c)) he .poll
    rw [Course.step, Course.poll_of_not_awaitsRequest env (ht.execution ▸ hw)] at hreach
    exact ⟨_, .set hc hreach, hdone⟩

theorem advance (h : Tracks a w held past cs) (id fuel : Nat) :
    (w.advance id fuel).GoesOn a held past cs := by
  induction fuel generalizing w cs with
  | zero => exact h.goesOn
  | succ fuel ih =>
    unfold World.advance
    split
    next => exact h.goesOn
    next f hf =>
      have hp := h.poll hf
      dsimp only
      split
      next he =>
        rw [List.isEmpty_iff.mp he] at hp
        exact hp
      next => exact hp.bind fun _ ht => ih ht

end Tracks

theorem partition_perm {α : Type} (p : α → Bool) (xs : List α) :
    ((xs.partition p).1 ++ (xs.partition p).2).Perm xs := by
  rw [List.partition_eq_filter_filter]
  exact List.filter_append_perm p xs

/-- Timers that fire make their jobs ready and lose none. -/
theorem jobs_fireTimers (w : World ρ) (due : Nat) : (w.fireTimers due).jobs.Perm w.jobs := by
  unfold World.fireTimers World.jobs
  dsimp only
  rw [List.append_assoc, List.append_assoc]
  refine List.Perm.append_left w.queue ?_
  rw [← List.append_assoc]
  refine ((partition_perm _ _).append_right _).trans ?_
  rw [← List.map_append]
  exact (partition_perm _ _).map _

theorem watch_task? (watchers : List (Watcher ρ)) :
    (watchers.map Job.watch).filterMap Job.task? = [] := by
  induction watchers with
  | nil => rfl
  | cons watcher rest ih => exact ih

namespace Tracks

/-- Jobs that are no tasks of any course. -/
theorem wakeWatchers (h : Tracks a w held past cs) (id : Nat) :
    Tracks a (w.wakeWatchers id) held past cs := by
  unfold World.wakeWatchers
  dsimp only
  refine h.rearrange rfl rfl rfl rfl (fun other position hm => ?_) ?_
  · rcases List.mem_append.mp hm with hm | hm
    · rcases List.mem_append.mp hm with hm | hm
      · exact List.mem_append_left _ hm
      · obtain ⟨watcher, -, hw⟩ := List.mem_map.mp hm
        cases hw
    · exact List.mem_append_right _ hm
  · refine List.Perm.append_right held (List.Perm.append_left w.kept ?_)
    unfold World.jobs
    rw [List.filterMap_append, List.filterMap_append, watch_task?, List.append_nil,
      ← List.filterMap_append]

theorem pollFlow (h : Tracks a w held past cs) (id : Nat) :
    (w.pollFlow id).GoesOn a held past cs := by
  unfold World.pollFlow
  split
  next => exact h.goesOn
  next f hf =>
    split
    next => exact h.goesOn
    next =>
      have hsent : (if f.execution.awaitsRequest then w.pollRequest id 0 else w).GoesOn
          a held past cs := by
        split
        next => exact h.pollRequest fun _ _ _ => rfl
        next => exact h.goesOn
      dsimp only
      generalize (if f.execution.awaitsRequest then w.pollRequest id 0 else w) = sent at hsent ⊢
      have hdone := hsent.bind fun _ ht => ht.advance id (2 * f.layers + 4)
      split
      next => exact hdone.bind fun _ ht => (ht.wakeWatchers id).goesOn
      next => exact hdone

/-- A completion belongs to no course. -/
theorem ignore (h : Tracks a w held past cs) (ho : t.owed? = none) :
    Tracks a w (t :: held) past cs :=
  { h with
    tasks := by
      rw [List.filterMap_append, List.filterMap_cons_none ho, ← List.filterMap_append]
      exact h.tasks }

theorem discard (h : Tracks a w (t :: held) past cs) (ho : t.owed? = none) :
    Tracks a w held past cs :=
  { h with
    tasks := by
      have ht := h.tasks
      rwa [List.filterMap_append, List.filterMap_cons_none ho, ← List.filterMap_append] at ht }

theorem runCompletion (h : Tracks a w held past cs) (ho : t.owed? = none) :
    Tracks a (w.runTask t).1 held past cs := by
  cases t with
  | complete name r => exact h.log rfl
  | process other processor input => cases ho
  | report r => cases ho
  | deliver name output => cases ho

theorem handCompletion (h : Tracks a w held past cs) (ho : t.owed? = none)
    (executor : Executor) : Tracks a (w.hand t executor).1 held past cs := by
  cases executor with
  | inline => exact h.runCompletion ho
  | blockingPool runtime =>
    simp only [World.hand, h.up]
    exact (h.ignore ho).enqueueTask
  | logged name d =>
    have hl := h.log (e := .executor name) rfl
    cases d with
    | runs => exact hl.runCompletion ho
    | keeps => exact (hl.ignore ho).store
    | drops =>
      cases t with
      | complete other r => exact hl
      | process other processor input => cases ho
      | report r => cases ho
      | deliver other output => cases ho

/-- A task in hand runs, as one that its course kept. -/
theorem runTaken (h : Tracks a w (t :: held) past cs) :
    (w.runTask t).1.GoesOn a held past cs := by
  cases ho : t.owed? with
  | none => exact ((h.discard ho).runCompletion ho).goesOn
  | some o =>
    obtain ⟨id, c, index, task, hc, hk, rfl, ht⟩ := h.take ho
    obtain ⟨f, -, hflow⟩ := h.flow hc
    obtain ⟨env, he, -⟩ := h.exists_within hflow
    have hself := List.getElem?_set_self (a := { c with kept := c.kept.eraseIdx index })
      (List.getElem?_eq_some_iff.mp hc).1
    obtain ⟨hr, -⟩ := ht.runTask hself ho
    rw [List.set_set] at hr
    have hreach := Course.Reaches.move (Relation.ReflTransGen.refl (a := c)) he (.run index)
    rw [Course.step, hk] at hreach
    exact ⟨_, .set hc hreach, hr⟩

/-- An executor that keeps its tasks lets go of them. -/
theorem takeKept (h : Tracks a w held past cs) :
    Tracks a { w with kept := [] } (w.kept ++ held) past cs := by
  refine h.rearrange rfl rfl rfl rfl (fun _ _ hm => hm) ?_
  change (w.jobs.filterMap Job.task? ++ (w.kept ++ held)).Perm
    (w.kept ++ w.jobs.filterMap Job.task? ++ held)
  rw [← List.append_assoc]
  exact List.perm_append_comm.append_right held

/-- They run in order, unless one of them panics. -/
theorem runKept {tasks : List (Task ρ)} (h : Tracks a w (tasks ++ held) past cs)
    (hp : (w.runKept tasks).2 = none) : (w.runKept tasks).1.GoesOn a held past cs := by
  induction tasks generalizing w cs with
  | nil => exact Tracks.goesOn h
  | cons task rest ih =>
    have hran : (w.runTask task).1.GoesOn a (rest ++ held) past cs := Tracks.runTaken h
    unfold World.runKept at hp ⊢
    cases hr : w.runTask task with
    | mk after panic? =>
      rw [hr] at hp hran
      cases panic? with
      | none => exact hran.bind fun _ ht => ih ht hp
      | some message => cases hp

/-- Any of the tasks that an executor keeps is taken from it. -/
theorem pickKept (h : Tracks a w held past cs) {index : Nat} {t : Task ρ}
    (ht : w.kept[index]? = some t) :
    Tracks a { w with kept := w.kept.eraseIdx index } (t :: held) past cs := by
  obtain ⟨hi, rfl⟩ := List.getElem?_eq_some_iff.mp ht
  refine h.rearrange rfl rfl rfl rfl (fun _ _ hm => hm) ?_
  have hp := List.getElem_cons_eraseIdx_perm hi
  change (w.kept.eraseIdx index ++ w.jobs.filterMap Job.task? ++ w.kept[index] :: held).Perm
    (w.kept ++ w.jobs.filterMap Job.task? ++ held)
  exact List.perm_middle.trans ((hp.append_right _).append_right held)

/-- Any job is taken from the queue. -/
theorem pick (h : Tracks a w held past cs) {index : Nat} {j : Job ρ}
    (hj : w.queue[index]? = some j) :
    Tracks a { w with queue := w.queue.eraseIdx index } (j.task?.toList ++ held) past cs := by
  obtain ⟨hi, rfl⟩ := List.getElem?_eq_some_iff.mp hj
  have hjobs : (w.queue[index] :: (w.queue.eraseIdx index ++ w.timers.map Timer.job)).Perm
      w.jobs :=
    (List.getElem_cons_eraseIdx_perm hi).append_right _
  refine h.rearrange rfl rfl rfl rfl (fun id position hm => ?_) ?_
  · exact hjobs.subset (List.mem_cons_of_mem _ hm)
  · have hp := (hjobs.filterMap Job.task?).append_left w.kept
    change (w.kept ++ (w.queue.eraseIdx index ++ w.timers.map Timer.job).filterMap Job.task? ++
      (w.queue[index].task?.toList ++ held)).Perm (w.tasks ++ held)
    refine List.Perm.trans ?_ (hp.append_right held)
    rw [List.filterMap_cons]
    cases w.queue[index].task? with
    | none => exact .refl _
    | some t =>
      rw [List.append_assoc, List.append_assoc]
      exact List.Perm.append_left w.kept List.perm_middle

/-- The first job is taken. -/
theorem pop (h : Tracks a w held past cs) {j : Job ρ} {rest : List (Job ρ)}
    (hq : w.queue = j :: rest) :
    Tracks a { w with queue := rest } (j.task?.toList ++ held) past cs := by
  have hfirst : w.queue[0]? = some j := by rw [hq, List.getElem?_cons_zero]
  have hp := h.pick hfirst
  rwa [hq] at hp

theorem runJob {j : Job ρ} (h : Tracks a w (j.task?.toList ++ held) past cs)
    (hj : ∀ id position, j = .request id position → ∃ f, w.flows[id]? = some f ∧ f.fanOut = true) :
    (w.runJob j).GoesOn a held past cs := by
  cases j with
  | flow id => exact h.pollFlow id
  | request id position =>
    refine h.pollRequest fun f hf hw => ?_
    obtain ⟨g, hg, hfan⟩ := hj id position rfl
    obtain ⟨c, -, ht⟩ := h.course hf
    rw [hf] at hg
    cases hg
    rw [ht.execution, ht.fanOut hfan] at hw
    cases hw
  | work t => exact h.runTaken
  | watch watcher =>
    unfold World.runJob
    dsimp only
    split
    next => exact (Tracks.handCompletion h rfl watcher.executor).goesOn
    next =>
      have hh : Tracks a w held past cs := h
      refine Tracks.goesOn ?_
      exact hh.aside rfl rfl rfl rfl rfl rfl

theorem fireTimers (h : Tracks a w held past cs) (due : Nat) :
    Tracks a (w.fireTimers due) held past cs := by
  have hjobs := jobs_fireTimers w due
  refine h.rearrange rfl rfl rfl rfl (fun id position hm => hjobs.subset hm) ?_
  exact ((hjobs.filterMap _).append_left w.kept).append_right held

/-- Whatever runs until then, the courses go on with it. -/
theorem runUntil (h : Tracks a w held past cs) (limit : Nat) (stop : World ρ → Bool)
    (fuel : Nat) : (w.runUntil limit stop fuel).GoesOn a held past cs := by
  induction fuel generalizing w cs with
  | zero => exact h.goesOn
  | succ fuel ih =>
    unfold World.runUntil
    split
    next => exact h.goesOn
    next =>
      split
      next j rest hq =>
        have hjob := (h.pop hq).runJob fun id position hj => h.requests id position (by
          rw [World.jobs, hq, hj]
          exact List.mem_cons_self)
        exact hjob.bind fun _ ht => ih ht
      next =>
        split
        next due _ =>
          split
          next => exact ih (h.fireTimers due)
          next => exact (h.fireTimers limit).goesOn
        next => exact (h.fireTimers limit).goesOn

theorem settle (h : Tracks a w held past cs) : w.settle.GoesOn a held past cs :=
  h.runUntil _ _ _

theorem sleepUntil (h : Tracks a w held past cs) (due : Nat) :
    (w.sleepUntil due).GoesOn a held past cs :=
  h.runUntil _ _ _

theorem waitFor (h : Tracks a w held past cs) (id limit : Nat) :
    (w.waitFor id limit).GoesOn a held past cs := by
  unfold World.waitFor
  split
  next => exact h.goesOn
  next => exact h.runUntil _ _ _

theorem driveFlow (h : Tracks a w held past cs) (id : Nat) :
    (w.driveFlow id).GoesOn a held past cs := by
  have hdriven : Tracks a { w with driven := some id } held past cs :=
    h.aside rfl rfl rfl rfl rfl rfl
  have hpolled := hdriven.pollFlow id
  unfold World.driveFlow
  generalize World.pollFlow { w with driven := some id } id = polled at hpolled ⊢
  have hwaited : World.GoesOn a (if polled.down then polled
      else (polled.waitFor id (polled.now + patience)).pollFlow id) held past cs := by
    split
    next => exact hpolled
    next => exact hpolled.bind fun _ ht => (ht.waitFor id _).bind fun _ ht' => ht'.pollFlow id
  exact hwaited.bind fun _ ht => Tracks.goesOn (ht.aside rfl rfl rfl rfl rfl rfl)

end Tracks
end CqlOperations.Simulation.World
