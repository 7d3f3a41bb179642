import CqlOperations.Proofs.Simulation.Tracks

/-! Handing tasks to an executor, in a world and in a course. -/
namespace CqlOperations.Simulation

variable {ρ : Type} {a : Allowance ρ} {w : World ρ} {held : List (Task ρ)}
  {past : List (Trace ρ)} {cs : List (Course ρ)} {t : Task ρ}

namespace World.Tracks

theorem enqueue (h : Tracks a w held past cs) {j : Job ρ} (hj : j.task? = none)
    (hr : ∀ id position, j = .request id position → ∃ f, w.flows[id]? = some f ∧ f.fanOut = true) :
    Tracks a (w.enqueue j) held past cs := by
  refine h.addJob rfl rfl rfl rfl rfl ?_ hj hr
  change ((w.queue ++ [j]) ++ w.timers.map Timer.job).Perm
    ((w.queue ++ w.timers.map Timer.job) ++ [j])
  rw [List.append_assoc, List.append_assoc]
  exact List.perm_append_comm.append_left w.queue

theorem wake (h : Tracks a w held past cs) (id : Nat) : Tracks a (w.wake id) held past cs := by
  unfold World.wake
  split
  next =>
    split
    next => exact h.enqueue rfl nofun
    next => exact h
  next => exact h

/-- A signal is told to the execution and to its course. -/
theorem note (h : Tracks a w held past cs) {id : Nat} {c : Course ρ} (hc : cs[id]? = some c)
    (s : Signal ρ) : Tracks a (w.note id s) held past (cs.set id (c.tell s)) := by
  obtain ⟨f, hf, ht⟩ := h.flow hc
  have hn : w.note id s =
      { w with flows := w.flows.set id { f with execution := (f.execution.handle s).1 } } := by
    simp only [World.note, signal, hf]
  rw [hn]
  refine h.set hf hc ?_ rfl rfl rfl
  exact
    { execution := by rw [ht.execution]; rfl
      statements := ht.statements
      requests := ht.requests
      fanOut := fun hfan => Execution.awaitsRequest_handle (ht.fanOut hfan) s
      does := ht.does
      mode := ht.mode
      stubs := ht.stubs }

end World.Tracks

/-- A task of an execution and the task of its course that it stands for. -/
theorem Task.owed?_cases {t : Task ρ} {id : Nat} {task : Action ρ}
    (h : t.owed? = some (task.owed id)) :
    (∃ processor input, t = .process id processor input ∧ task = .process processor input) ∨
      (∃ r, t = .report r ∧ task = .report r) ∨
        ∃ name output, t = .deliver name output ∧ task = .deliver output := by
  cases t with
  | complete name r => cases h
  | process other processor input =>
    cases task with
    | process processor' input' => cases h; exact .inl ⟨_, _, rfl, rfl⟩
    | report r => cases h
    | deliver output => cases h
    | observe text => cases h
  | report r =>
    cases task with
    | report r' => cases h; exact .inr (.inl ⟨_, rfl, rfl⟩)
    | process processor input => cases h
    | deliver output => cases h
    | observe text => cases h
  | deliver name output =>
    cases task with
    | deliver output' => cases h; exact .inr (.inr ⟨_, _, rfl, rfl⟩)
    | process processor input => cases h
    | report r => cases h
    | observe text => cases h

namespace World.Tracks

/-- The execution of this number and its course run the same task. -/
theorem runTask (h : Tracks a w held past cs) {id : Nat} {c : Course ρ} (hc : cs[id]? = some c)
    {task : Action ρ} (ho : t.owed? = some (task.owed id)) :
    Tracks a (w.runTask t).1 held past (cs.set id (c.runTask task).1) ∧
      (w.runTask t).2 = (c.runTask task).2 := by
  rcases Task.owed?_cases ho with
    ⟨processor, input, rfl, rfl⟩ | ⟨r, rfl, rfl⟩ | ⟨name, output, rfl, rfl⟩
  · have ht : Tracks a (w.log (.transform processor.label)) held past
        (cs.set id { c with ran := c.ran ++ [.process processor input] }) :=
      h.trace hc rfl
    have hself := List.getElem?_set_self
      (a := { c with ran := c.ran ++ [.process processor input] })
      (List.getElem?_eq_some_iff.mp hc).1
    unfold World.runTask Course.runTask
    cases hp : processor.run input with
    | returned result =>
      have hn := (ht.note hself (.processed result)).wake id
      rw [List.set_set] at hn
      simp only [hp]
      exact ⟨hn, trivial⟩
    | panicked message =>
      have hn := (ht.note hself .dropped).wake id
      rw [List.set_set] at hn
      simp only [hp]
      exact ⟨hn, trivial⟩
  · exact ⟨h.trace hc rfl, rfl⟩
  · exact ⟨h.trace hc rfl, rfl⟩

theorem dropTask (h : Tracks a w held past cs) {id : Nat} {c : Course ρ} (hc : cs[id]? = some c)
    {task : Action ρ} (ho : t.owed? = some (task.owed id)) :
    Tracks a (w.dropTask t) held past (cs.set id (c.dropTask task)) := by
  have hsame : Tracks a w held past (cs.set id c) := by rwa [set_eq_self hc]
  rcases Task.owed?_cases ho with
    ⟨processor, input, rfl, rfl⟩ | ⟨r, rfl, rfl⟩ | ⟨name, output, rfl, rfl⟩
  · exact (h.note hc .dropped).wake id
  · exact hsame
  · exact hsame

/-- The executor that is asked when a course hands over a task. -/
theorem hand (h : Tracks a w held past cs) {id : Nat} {c : Course ρ} (hc : cs[id]? = some c)
    {task : Action ρ} (ho : t.owed? = some (task.owed id)) {env : Environment ρ}
    {executor : Executor} (he : ∀ i, env.discipline i = executor.discipline) :
    Tracks a (w.hand t executor).1 held past (cs.set id (c.hand env task).1) ∧
      (w.hand t executor).2 = (c.hand env task).2 := by
  have hself : ∀ d : Course ρ, (cs.set id d)[id]? = some d := fun d =>
    List.getElem?_set_self (List.getElem?_eq_some_iff.mp hc).1
  have hrun : ∀ {w : World ρ}, Tracks a w held past cs →
      Tracks a (w.runTask t).1 held past
        (cs.set id ({ c with handed := c.handed ++ [task] }.runTask task).1) ∧
      (w.runTask t).2 = ({ c with handed := c.handed ++ [task] }.runTask task).2 := by
    intro w h
    have hr := (h.given hc task).runTask (hself _) ho
    rwa [List.set_set] at hr
  have hkeep : ∀ {w : World ρ}, Tracks a w held past cs →
      Tracks a w (t :: held) past (cs.set id
        { c with handed := c.handed ++ [task], kept := c.kept ++ [task] }) := fun h =>
    h.keep hc ho (fun f ht => ht.remember rfl rfl rfl) rfl rfl
  unfold Course.hand
  rw [he]
  cases executor with
  | inline => exact hrun h
  | blockingPool runtime =>
    refine ⟨?_, rfl⟩
    simp only [World.hand, h.up]
    exact (hkeep h).enqueueTask
  | logged name d =>
    have hl := h.log (e := .executor name) rfl
    cases d with
    | runs => exact hrun hl
    | keeps => exact ⟨(hkeep hl).store, rfl⟩
    | drops =>
      have hd := (hl.given hc task).dropTask (hself _) ho
      rw [List.set_set] at hd
      exact ⟨hd, rfl⟩

/-- The tasks of an execution are handed over one by one. -/
theorem perform (h : Tracks a w held past cs) {id : Nat} {c : Course ρ} (hc : cs[id]? = some c)
    {env : Environment ρ} {executor : Executor} (he : ∀ i, env.discipline i = executor.discipline)
    (name : String) {actions : List (Action ρ)} (ha : ∀ action ∈ actions, action.isTask = true) :
    Tracks a (w.perform id executor name actions) held past
      (cs.set id (c.perform env actions)) := by
  induction actions generalizing w c cs with
  | nil =>
    rw [Course.perform, set_eq_self hc]
    exact h
  | cons action rest ih =>
    have hself : ∀ d : Course ρ, (cs.set id d)[id]? = some d := fun d =>
      List.getElem?_set_self (List.getElem?_eq_some_iff.mp hc).1
    have hdone : ∀ t : Task ρ, t.owed? = some (action.owed id) →
        (w.hand t executor).2 = none →
          Tracks a ((w.hand t executor).1.perform id executor name rest) held past
            (cs.set id (c.perform env (action :: rest))) := by
      intro t ho hnone
      obtain ⟨hh, hm⟩ := h.hand hc ho he
      rw [hnone] at hm
      have hi := ih hh (hself _) fun other ho => ha other (List.mem_cons_of_mem _ ho)
      rw [List.set_set] at hi
      rw [Course.perform]
      cases hg : c.hand env action with
      | mk given panic? =>
        rw [hg] at hm hi
        cases hm
        exact hi
    have hpanic : ∀ (t : Task ρ) (message : String), t.owed? = some (action.owed id) →
        (w.hand t executor).2 = some message →
          Tracks a ((w.hand t executor).1.note id (.unwound message)) held past
            (cs.set id (c.perform env (action :: rest))) := by
      intro t message ho hsome
      obtain ⟨hh, hm⟩ := h.hand hc ho he
      rw [hsome] at hm
      have hn := hh.note (hself _) (.unwound message)
      rw [List.set_set] at hn
      rw [Course.perform]
      cases hg : c.hand env action with
      | mk given panic? =>
        rw [hg] at hm hn
        cases hm
        exact hn
    have htask := ha action List.mem_cons_self
    cases action with
    | observe text => cases htask
    | report r =>
      simp only [World.perform]
      split
      next hnone => exact hdone (.report r) rfl hnone
      next message hsome => exact hpanic (.report r) message rfl hsome
    | process processor input =>
      simp only [World.perform]
      split
      next hnone => exact hdone (.process id processor input) rfl hnone
      next message hsome => exact hpanic (.process id processor input) message rfl hsome
    | deliver output =>
      simp only [World.perform]
      split
      next hnone => exact hdone (.deliver name output) rfl hnone
      next message hsome => exact hpanic (.deliver name output) message rfl hsome

end World.Tracks
end CqlOperations.Simulation
