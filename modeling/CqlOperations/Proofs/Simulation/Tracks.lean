import CqlOperations.Proofs.Course.Reaches
import CqlOperations.Simulation.Clock

/-! A simulated world follows one course for each of its executions, as long as its runtime is up.
The tasks that it has yet to run and what it logged are those of all courses together. -/
namespace CqlOperations

variable {ρ : Type}

/-- What becomes visible of a task that runs. -/
inductive Trace (ρ : Type) where
  | reported (report : Report)
  | delivered (output : Output ρ)
  | processed (label : String)

def Action.trace? : Action ρ → Option (Trace ρ)
  | .report r => some (.reported r)
  | .deliver output => some (.delivered output)
  | .process processor _ => some (.processed processor.label)
  | .observe _ => none

/-- A task of the execution with this number, whatever its callback is called. Only a processor has
to know where its result goes. -/
def Action.owed (id : Nat) : Action ρ → Option Nat × Action ρ
  | .process processor input => (some id, .process processor input)
  | task => (none, task)

/-- What the executor makes of a task while its runtime is up. -/
def Executor.discipline : Executor → Discipline
  | .inline => .runs
  | .blockingPool _ => .keeps
  | .logged _ d => d

/-- Putting back what is there. -/
theorem set_eq_self {α : Type} {xs : List α} {i : Nat} {x : α} (h : xs[i]? = some x) :
    xs.set i x = xs := by
  obtain ⟨hi, rfl⟩ := List.getElem?_eq_some_iff.mp h
  exact List.set_getElem_self hi

theorem modify_eq_set {α : Type} {xs : List α} {i : Nat} {x : α} (h : xs[i]? = some x)
    (f : α → α) : xs.modify i f = xs.set i (f x) := by
  rw [List.modify_eq_set_getElem?, h]
  rfl

theorem map_modify_eq {α β : Type} {f : α → β} {g : α → α} (h : ∀ x, f (g x) = f x)
    (xs : List α) (i : Nat) : (xs.modify i g).map f = xs.map f := by
  cases hx : xs[i]? with
  | none => rw [List.modify_eq_set_getElem?, hx]; rfl
  | some x =>
    rw [modify_eq_set hx, List.map_set, h]
    exact set_eq_self (by rw [List.getElem?_map, hx]; rfl)

/-- The tasks of a course that are still to run, if it has this number. -/
def Course.owed (id : Nat) (c : Course ρ) : List (Option Nat × Action ρ) :=
  c.kept.map (Action.owed id)

/-- What became visible of a course, whatever its number. -/
def Course.traces (_ : Nat) (c : Course ρ) : List (Trace ρ) :=
  c.ran.filterMap Action.trace?

/-- Lists that come with the courses, put together; the first course has the number `first`. -/
def Course.collect {α : Type} (part : Nat → Course ρ → List α) (first : Nat) :
    List (Course ρ) → List α
  | [] => []
  | c :: rest => part first c ++ collect part (first + 1) rest

namespace Course

variable {α : Type} {cs : List (Course ρ)} {id : Nat} {c c' : Course ρ} {more : List α}

theorem collect_set (part : Nat → Course ρ → List α) (h : cs[id]? = some c) (c' : Course ρ)
    (first : Nat) :
    (collect part first (cs.set id c') ++ part (first + id) c).Perm
      (collect part first cs ++ part (first + id) c') := by
  induction cs generalizing id first with
  | nil => cases h
  | cons head rest ih =>
    cases id with
    | zero =>
      cases h
      change ((part first c' ++ collect part (first + 1) rest) ++ part first c).Perm
        ((part first c ++ collect part (first + 1) rest) ++ part first c')
      rw [List.append_assoc, List.append_assoc]
      calc
        (part first c' ++ (collect part (first + 1) rest ++ part first c)).Perm
            ((collect part (first + 1) rest ++ part first c) ++ part first c') :=
          List.perm_append_comm
        List.Perm _ ((part first c ++ collect part (first + 1) rest) ++ part first c') :=
          List.perm_append_comm.append_right _
        _ = part first c ++ (collect part (first + 1) rest ++ part first c') :=
          List.append_assoc _ _ _
    | succ id =>
      have hi := ih h (first + 1)
      rw [show first + 1 + id = first + (id + 1) by omega] at hi
      change ((part first head ++ collect part (first + 1) (rest.set id c')) ++ _).Perm
        ((part first head ++ collect part (first + 1) rest) ++ _)
      rw [List.append_assoc, List.append_assoc]
      exact hi.append_left _

/-- What one course has more, all have more. -/
theorem collect_more (part : Nat → Course ρ → List α) (h : cs[id]? = some c)
    (hp : (part id c').Perm (part id c ++ more)) :
    (collect part 0 cs ++ more).Perm (collect part 0 (cs.set id c')) := by
  have hs := collect_set part h c' 0
  rw [Nat.zero_add] at hs
  have hm : (collect part 0 cs ++ part id c').Perm ((collect part 0 cs ++ more) ++ part id c) := by
    rw [List.append_assoc]
    exact (hp.trans List.perm_append_comm).append_left _
  exact ((List.perm_append_right_iff _).mp (hs.trans hm)).symm

theorem collect_less (part : Nat → Course ρ → List α) (h : cs[id]? = some c)
    (hp : (part id c).Perm (part id c' ++ more)) :
    (collect part 0 (cs.set id c') ++ more).Perm (collect part 0 cs) := by
  have hself : (cs.set id c')[id]? = some c' :=
    List.getElem?_set_self (List.getElem?_eq_some_iff.mp h).1
  have hm := collect_more part hself hp
  rwa [List.set_set, set_eq_self h] at hm

theorem collect_same (part : Nat → Course ρ → List α) (h : cs[id]? = some c)
    (hp : part id c' = part id c) :
    (collect part 0 cs).Perm (collect part 0 (cs.set id c')) := by
  have hn : (part id c').Perm (part id c ++ []) := by rw [hp, List.append_nil]
  have hm := collect_more part h hn
  rwa [List.append_nil] at hm

theorem collect_append (part : Nat → Course ρ → List α) (cs : List (Course ρ)) (c : Course ρ)
    (first : Nat) :
    collect part first (cs ++ [c]) = collect part first cs ++ part (first + cs.length) c := by
  induction cs generalizing first with
  | nil => simp only [collect, List.nil_append, List.append_nil, List.length_nil, Nat.add_zero]
  | cons head rest ih =>
    simp only [List.cons_append, collect, ih, List.append_assoc, List.length_cons]
    rw [show first + 1 + rest.length = first + (rest.length + 1) by omega]

theorem mem_collect {part : Nat → Course ρ → List α} {first : Nat} {x : α}
    (h : x ∈ collect part first cs) :
    ∃ id c, cs[id]? = some c ∧ x ∈ part (first + id) c := by
  induction cs generalizing first with
  | nil => cases h
  | cons head rest ih =>
    rcases List.mem_append.mp h with h | h
    · exact ⟨0, head, rfl, h⟩
    · obtain ⟨id, c, hc, hx⟩ := ih h
      rw [Nat.add_assoc, Nat.add_comm 1 id] at hx
      exact ⟨id + 1, c, hc, hx⟩

theorem mem_collect_of_mem {part : Nat → Course ρ → List α} {first : Nat} {x : α}
    (h : cs[id]? = some c) (hx : x ∈ part (first + id) c) : x ∈ collect part first cs := by
  induction cs generalizing first id with
  | nil => cases h
  | cons head rest ih =>
    cases id with
    | zero =>
      cases h
      exact List.mem_append_left _ hx
    | succ id =>
      have hn : first + (id + 1) = first + 1 + id := by omega
      exact List.mem_append_right _ (ih h (hn ▸ hx))

theorem collect_traces (cs : List (Course ρ)) (first : Nat) :
    collect traces first cs = cs.flatMap fun c => c.ran.filterMap Action.trace? := by
  induction cs generalizing first with
  | nil => rfl
  | cons c rest ih => rw [collect, ih, List.flatMap_cons, traces]

end Course

namespace Simulation

def Phase.progress : Phase ρ → Progress
  | .fresh => .spawned
  | .over => .ended
  | _ => .sent

/-- How a request that was sent is to go on. -/
def Phase.stub? : Phase ρ → Option (Stub ρ)
  | .sleeping _ stub => some stub
  | .waiting stub => some stub
  | .admitted stub => some stub
  | _ => none

theorem Phase.progress_of_stub? {phase : Phase ρ} {stub : Stub ρ} (h : phase.stub? = some stub) :
    phase.progress = .sent := by
  unfold stub? at h
  split at h
  next => rfl
  next => rfl
  next => rfl
  next => cases h

def Event.trace? : Event ρ → Option (Trace ρ)
  | .handler r => some (.reported r)
  | .callback _ output => some (.delivered output)
  | .transform label => some (.processed label)
  | _ => none

def Task.owed? : Task ρ → Option (Option Nat × Action ρ)
  | .process id processor input => some (some id, .process processor input)
  | .report r => some (none, .report r)
  | .deliver _ output => some (none, .deliver output)
  | .complete .. => none

def Job.task? : Job ρ → Option (Task ρ)
  | .work task => some task
  | _ => none

/-- What one execution of a world has in common with its course. -/
structure Flow.Tracks (a : Allowance ρ) (f : Flow ρ) (c : Course ρ) : Prop where
  execution : f.execution = c.execution
  statements : f.requests.map Request.statement = c.statements
  requests : (f.requests.map fun r => r.phase.progress) = c.requests
  /-- Requests on tasks of their own are not those of a single statement. -/
  fanOut : f.fanOut = true → c.execution.awaitsRequest = false
  does : a.does f.executor.discipline
  mode : f.mode ≠ .cancelled
  stubs : ∀ (i : Nat) (r : Request ρ) (stub : Stub ρ),
    f.requests[i]? = some r → r.phase.stub? = some stub → a.ends r.statement stub.ending

theorem Flow.Tracks.remember {a : Allowance ρ} {f : Flow ρ} {c c' : Course ρ} (h : f.Tracks a c)
    (hx : c'.execution = c.execution) (hs : c'.statements = c.statements)
    (hr : c'.requests = c.requests) : f.Tracks a c' where
  execution := h.execution.trans hx.symm
  statements := h.statements.trans hs.symm
  requests := h.requests.trans hr.symm
  fanOut := hx ▸ h.fanOut
  does := h.does
  mode := h.mode
  stubs := h.stubs

namespace World

/-- All jobs that are ready or will be. -/
def jobs (w : World ρ) : List (Job ρ) :=
  w.queue ++ w.timers.map Timer.job

/-- All tasks that are still to run. -/
def tasks (w : World ρ) : List (Task ρ) :=
  w.kept ++ w.jobs.filterMap Job.task?

/-- The world is up and follows the courses. The tasks in `held` were just taken out of it, and
`past` is what it logged of none of them. -/
structure Tracks (a : Allowance ρ) (w : World ρ) (held : List (Task ρ)) (past : List (Trace ρ))
    (cs : List (Course ρ)) : Prop where
  up : w.down = false
  ends : ∀ statement n, a.ends statement (w.treatment statement n).ending
  length : cs.length = w.flows.length
  flows : ∀ (id : Nat) (f : Flow ρ) (c : Course ρ),
    w.flows[id]? = some f → cs[id]? = some c → f.Tracks a c
  requests : ∀ id position, .request id position ∈ w.jobs →
    ∃ f, w.flows[id]? = some f ∧ f.fanOut = true
  tasks : ((w.tasks ++ held).filterMap Task.owed?).Perm
    (Course.collect Course.owed 0 cs)
  traces : (w.events.filterMap Event.trace?).Perm
    (past ++ Course.collect Course.traces 0 cs)

namespace Tracks

variable {a : Allowance ρ} {w : World ρ} {held : List (Task ρ)} {past : List (Trace ρ)}
  {cs : List (Course ρ)} {t : Task ρ}

theorem log (h : Tracks a w held past cs) {e : Event ρ} (he : e.trace? = none) :
    Tracks a (w.log e) held past cs where
  up := h.up
  ends := h.ends
  length := h.length
  flows := h.flows
  requests := h.requests
  tasks := h.tasks
  traces := by
    change ((w.events ++ [e]).filterMap Event.trace?).Perm _
    rw [List.filterMap_append, List.filterMap_cons_none he]
    exact List.append_nil _ ▸ h.traces

theorem course (h : Tracks a w held past cs) {id : Nat} {f : Flow ρ} (hf : w.flows[id]? = some f) :
    ∃ c, cs[id]? = some c ∧ f.Tracks a c := by
  have hi : id < cs.length := h.length ▸ (List.getElem?_eq_some_iff.mp hf).1
  exact ⟨cs[id], List.getElem?_eq_getElem hi, h.flows id f _ hf (List.getElem?_eq_getElem hi)⟩

theorem flow (h : Tracks a w held past cs) {id : Nat} {c : Course ρ} (hc : cs[id]? = some c) :
    ∃ f, w.flows[id]? = some f ∧ f.Tracks a c := by
  have hi : id < w.flows.length := h.length ▸ (List.getElem?_eq_some_iff.mp hc).1
  exact ⟨w.flows[id], List.getElem?_eq_getElem hi, h.flows id _ c (List.getElem?_eq_getElem hi) hc⟩

private theorem tasks_set (h : Tracks a w held past cs) {id : Nat} {c c' : Course ρ}
    (hc : cs[id]? = some c) (hk : c'.kept = c.kept) :
    ((w.tasks ++ held).filterMap Task.owed?).Perm
      (Course.collect Course.owed 0 (cs.set id c')) := by
  have hp : c'.owed id = c.owed id := by rw [Course.owed, hk, Course.owed]
  exact h.tasks.trans (Course.collect_same Course.owed hc hp)

private theorem traces_set (h : Tracks a w held past cs) {id : Nat} {c c' : Course ρ}
    (hc : cs[id]? = some c) (hr : c'.ran = c.ran) :
    (w.events.filterMap Event.trace?).Perm
      (past ++ Course.collect Course.traces 0 (cs.set id c')) := by
  have hp : c'.traces id = c.traces id := by rw [Course.traces, hr, Course.traces]
  exact h.traces.trans ((Course.collect_same Course.traces hc hp).append_left past)

/-- One execution moves on with its course, which gets rid of no task and runs none. -/
theorem set (h : Tracks a w held past cs) {id : Nat} {f f' : Flow ρ} {c c' : Course ρ}
    (hf : w.flows[id]? = some f) (hc : cs[id]? = some c) (ht : f'.Tracks a c')
    (hfan : f'.fanOut = f.fanOut) (hk : c'.kept = c.kept) (hr : c'.ran = c.ran) :
    Tracks a { w with flows := w.flows.set id f' } held past (cs.set id c') where
  up := h.up
  ends := h.ends
  length := by rw [List.length_set, List.length_set, h.length]
  flows other g d hg hd := by
    by_cases ho : id = other
    · subst ho
      rw [List.getElem?_set_self (List.getElem?_eq_some_iff.mp hf).1] at hg
      rw [List.getElem?_set_self (List.getElem?_eq_some_iff.mp hc).1] at hd
      cases hg
      cases hd
      exact ht
    · rw [List.getElem?_set_ne ho] at hg hd
      exact h.flows other g d hg hd
  requests other position hj := by
    obtain ⟨g, hg, hfg⟩ := h.requests other position hj
    by_cases ho : id = other
    · subst ho
      rw [hf] at hg
      cases hg
      exact ⟨f', List.getElem?_set_self (List.getElem?_eq_some_iff.mp hf).1, hfan.trans hfg⟩
    · exact ⟨g, (List.getElem?_set_ne ho).trans hg, hfg⟩
  tasks := h.tasks_set hc hk
  traces := h.traces_set hc hr

private theorem flows_set (h : Tracks a w held past cs) {id : Nat} {c c' : Course ρ}
    (hc : cs[id]? = some c) (ht : ∀ f : Flow ρ, f.Tracks a c → f.Tracks a c') (other : Nat)
    (f : Flow ρ) (d : Course ρ) (hf : w.flows[other]? = some f)
    (hd : (cs.set id c')[other]? = some d) : f.Tracks a d := by
  by_cases ho : id = other
  · subst ho
    rw [List.getElem?_set_self (List.getElem?_eq_some_iff.mp hc).1] at hd
    cases hd
    exact ht f (h.flows id f c hf hc)
  · rw [List.getElem?_set_ne ho] at hd
    exact h.flows other f d hf hd

/-- A task of one course is visible as soon as it runs. -/
theorem trace (h : Tracks a w held past cs) {id : Nat} {c : Course ρ} (hc : cs[id]? = some c)
    {e : Event ρ} {task : Action ρ} (he : e.trace? = task.trace?) :
    Tracks a (w.log e) held past (cs.set id { c with ran := c.ran ++ [task] }) where
  up := h.up
  ends := h.ends
  length := (List.length_set).trans h.length
  flows := h.flows_set hc fun _ ht => ht.remember rfl rfl rfl
  requests := h.requests
  tasks := h.tasks_set hc rfl
  traces := by
    have hc' : ({ c with ran := c.ran ++ [task] } : Course ρ).traces id =
        c.traces id ++ [task].filterMap Action.trace? :=
      List.filterMap_append
    have hp := Course.collect_more Course.traces hc (.of_eq hc')
    have hl : [e].filterMap Event.trace? = [task].filterMap Action.trace? := by
      simp only [List.filterMap_cons, List.filterMap_nil, he]
    change ((w.events ++ [e]).filterMap Event.trace?).Perm _
    rw [List.filterMap_append, hl]
    refine (h.traces.append_right _).trans ?_
    rw [List.append_assoc]
    exact hp.append_left past

theorem owed_cons {o : Option Nat × Action ρ} (w : World ρ) (held : List (Task ρ))
    (ho : t.owed? = some o) :
    ((w.tasks ++ t :: held).filterMap Task.owed?).Perm
      ((w.tasks ++ held).filterMap Task.owed? ++ [o]) := by
  have hm : (w.tasks ++ t :: held).Perm ((w.tasks ++ held) ++ [t]) := by
    rw [List.append_assoc]
    exact (List.perm_append_singleton t held).symm.append_left _
  have hl : [t].filterMap Task.owed? = [o] := by
    rw [List.filterMap_cons_some ho, List.filterMap_nil]
  rw [← hl, ← List.filterMap_append]
  exact hm.filterMap _

/-- A course keeps a task that is in hand. -/
theorem keep (h : Tracks a w held past cs) {id : Nat} {c c' : Course ρ} (hc : cs[id]? = some c)
    {t : Task ρ} {task : Action ρ} (ho : t.owed? = some (task.owed id))
    (ht : ∀ f : Flow ρ, f.Tracks a c → f.Tracks a c') (hk : c'.kept = c.kept ++ [task])
    (hr : c'.ran = c.ran) : Tracks a w (t :: held) past (cs.set id c') where
  up := h.up
  ends := h.ends
  length := (List.length_set).trans h.length
  flows := h.flows_set hc ht
  requests := h.requests
  tasks := by
    have hp : (c'.owed id).Perm (c.owed id ++ [task.owed id]) := by
      rw [Course.owed, hk, List.map_append]
      exact .refl _
    exact (owed_cons w held ho).trans
      ((h.tasks.append_right _).trans (Course.collect_more _ hc hp))
  traces := h.traces_set hc hr

/-- A task in hand is one that some course keeps. -/
theorem take (h : Tracks a w (t :: held) past cs) {o : Option Nat × Action ρ}
    (ho : t.owed? = some o) : ∃ (id : Nat) (c : Course ρ) (index : Nat) (task : Action ρ),
      cs[id]? = some c ∧ c.kept[index]? = some task ∧ task.owed id = o ∧
        Tracks a w held past (cs.set id { c with kept := c.kept.eraseIdx index }) := by
  have hp := (owed_cons w held ho).symm.trans h.tasks
  have ho : o ∈ Course.collect Course.owed 0 cs :=
    hp.subset (List.mem_append_right _ List.mem_cons_self)
  obtain ⟨id, c, hc, ho⟩ := Course.mem_collect ho
  rw [Nat.zero_add] at ho
  obtain ⟨task, htask, rfl⟩ := List.mem_map.mp ho
  obtain ⟨index, hi, rfl⟩ := List.getElem_of_mem htask
  have hk : c.kept.Perm (c.kept.eraseIdx index ++ [c.kept[index]]) :=
    (List.getElem_cons_eraseIdx_perm hi).symm.trans (List.perm_append_singleton _ _).symm
  have howed : (c.owed id).Perm
      (({ c with kept := c.kept.eraseIdx index } : Course ρ).owed id ++
        [(c.kept[index]).owed id]) := by
    have hm := hk.map (Action.owed id)
    rwa [List.map_append] at hm
  refine ⟨id, c, index, c.kept[index], hc, List.getElem?_eq_getElem hi, rfl, ?_⟩
  exact
    { up := h.up
      ends := h.ends
      length := (List.length_set).trans h.length
      flows := h.flows_set hc fun _ ht => ht.remember rfl rfl rfl
      requests := h.requests
      tasks := (List.perm_append_right_iff _).mp
        (hp.trans (Course.collect_less Course.owed hc howed).symm)
      traces := h.traces_set hc rfl }

/-- What a course remembers of a task that it gives away is not visible. -/
theorem given (h : Tracks a w held past cs) {id : Nat} {c : Course ρ} (hc : cs[id]? = some c)
    (task : Action ρ) :
    Tracks a w held past (cs.set id { c with handed := c.handed ++ [task] }) where
  up := h.up
  ends := h.ends
  length := (List.length_set).trans h.length
  flows := h.flows_set hc fun _ ht => ht.remember rfl rfl rfl
  requests := h.requests
  tasks := h.tasks_set hc rfl
  traces := h.traces_set hc rfl

/-- Tasks that only change places. -/
theorem rearrange (h : Tracks a w held past cs) {w' : World ρ} {held' : List (Task ρ)}
    (hd : w'.down = w.down) (ht : w'.treatment = w.treatment) (hf : w'.flows = w.flows)
    (he : w'.events = w.events)
    (hj : ∀ id position, .request id position ∈ w'.jobs → .request id position ∈ w.jobs)
    (hp : (w'.tasks ++ held').Perm (w.tasks ++ held)) : Tracks a w' held' past cs where
  up := hd.trans h.up
  ends := ht ▸ h.ends
  length := hf ▸ h.length
  flows := hf ▸ h.flows
  requests id position hm := hf ▸ h.requests id position (hj id position hm)
  tasks := (hp.filterMap _).trans h.tasks
  traces := he ▸ h.traces

/-- One more job, that is no task. -/
theorem addJob (h : Tracks a w held past cs) {w' : World ρ} {j : Job ρ} (hd : w'.down = w.down)
    (ht : w'.treatment = w.treatment) (hf : w'.flows = w.flows) (he : w'.events = w.events)
    (hk : w'.kept = w.kept) (hp : w'.jobs.Perm (w.jobs ++ [j])) (hj : j.task? = none)
    (hr : ∀ id position, j = .request id position → ∃ f, w.flows[id]? = some f ∧ f.fanOut = true) :
    Tracks a w' held past cs where
  up := hd.trans h.up
  ends := ht ▸ h.ends
  length := hf ▸ h.length
  flows := hf ▸ h.flows
  requests id position hm := by
    rw [hf]
    rcases List.mem_append.mp (hp.subset hm) with hm | hm
    · exact h.requests id position hm
    · exact hr id position (List.mem_singleton.mp hm).symm
  tasks := by
    have hjobs := hp.filterMap Job.task?
    rw [List.filterMap_append, List.filterMap_cons_none hj, List.filterMap_nil,
      List.append_nil] at hjobs
    have htasks : w'.tasks.Perm w.tasks := by
      unfold World.tasks
      rw [hk]
      exact hjobs.append_left w.kept
    exact ((htasks.append_right held).filterMap _).trans h.tasks
  traces := he ▸ h.traces

theorem store (h : Tracks a w (t :: held) past cs) :
    Tracks a { w with kept := w.kept ++ [t] } held past cs := by
  refine h.rearrange rfl rfl rfl rfl (fun _ _ hm => hm) ?_
  change ((w.kept ++ [t]) ++ w.jobs.filterMap Job.task? ++ held).Perm
    (w.kept ++ w.jobs.filterMap Job.task? ++ t :: held)
  rw [List.append_assoc, List.append_assoc, List.append_assoc, List.singleton_append]
  exact List.perm_middle.symm.append_left w.kept

theorem enqueueTask (h : Tracks a w (t :: held) past cs) :
    Tracks a (w.enqueue (.work t)) held past cs := by
  refine h.rearrange rfl rfl rfl rfl (fun id position hm => ?_) ?_
  · rcases List.mem_append.mp hm with hm | hm
    · rcases List.mem_append.mp hm with hm | hm
      · exact List.mem_append_left _ hm
      · cases List.mem_singleton.mp hm
    · exact List.mem_append_right _ hm
  · have hj : (w.enqueue (.work t)).jobs.Perm (w.jobs ++ [Job.work t]) := by
      change ((w.queue ++ [Job.work t]) ++ w.timers.map Timer.job).Perm
        ((w.queue ++ w.timers.map Timer.job) ++ [Job.work t])
      rw [List.append_assoc, List.append_assoc]
      exact List.perm_append_comm.append_left _
    have ht := hj.filterMap Job.task?
    rw [List.filterMap_append] at ht
    change (w.kept ++ (w.enqueue (.work t)).jobs.filterMap Job.task? ++ held).Perm
      (w.kept ++ w.jobs.filterMap Job.task? ++ t :: held)
    refine ((ht.append_left w.kept).append_right held).trans ?_
    rw [List.append_assoc, List.append_assoc, List.append_assoc]
    exact .refl _

end Tracks
end World

variable {a : Allowance ρ}

/-- Each course goes on in some way. -/
structure Follow (a : Allowance ρ) (cs cs' : List (Course ρ)) : Prop where
  length : cs'.length = cs.length
  reaches : ∀ (id : Nat) (c : Course ρ), cs[id]? = some c →
    ∃ c', cs'[id]? = some c' ∧ c.Reaches a c'

namespace Follow

theorem refl (cs : List (Course ρ)) : Follow a cs cs :=
  ⟨rfl, fun _ c hc => ⟨c, hc, .refl⟩⟩

theorem trans {cs middle cs' : List (Course ρ)} (h : Follow a cs middle)
    (h' : Follow a middle cs') : Follow a cs cs' where
  length := h'.length.trans h.length
  reaches id c hc := by
    obtain ⟨d, hd, hcd⟩ := h.reaches id c hc
    obtain ⟨e, he, hde⟩ := h'.reaches id d hd
    exact ⟨e, he, hcd.trans hde⟩

theorem set {cs : List (Course ρ)} {id : Nat} {c c' : Course ρ} (hc : cs[id]? = some c)
    (h : c.Reaches a c') : Follow a cs (cs.set id c') where
  length := List.length_set
  reaches other d hd := by
    by_cases ho : id = other
    · subst ho
      rw [hc] at hd
      cases hd
      exact ⟨c', List.getElem?_set_self (List.getElem?_eq_some_iff.mp hc).1, h⟩
    · exact ⟨d, (List.getElem?_set_ne ho).trans hd, .refl⟩

theorem concat {cs ds : List (Course ρ)} {c : Course ρ} (h : Follow a (cs ++ [c]) ds) :
    ∃ cs' c', ds = cs' ++ [c'] ∧ Follow a cs cs' ∧ c.Reaches a c' := by
  have hl := h.length
  rw [List.length_append] at hl
  rcases List.eq_nil_or_concat ds with rfl | ⟨cs', c', rfl⟩
  · cases hl
  · rw [List.concat_eq_append, List.length_append] at hl
    have hlen : cs'.length = cs.length := Nat.succ.inj hl
    rw [List.concat_eq_append] at h ⊢
    refine ⟨cs', c', rfl, ⟨hlen, fun id d hd => ?_⟩, ?_⟩
    · have hid := (List.getElem?_eq_some_iff.mp hd).1
      obtain ⟨d', hd', hr⟩ := h.reaches id d ((List.getElem?_append_left hid).trans hd)
      rw [List.getElem?_append_left (hlen ▸ hid)] at hd'
      exact ⟨d', hd', hr⟩
    · obtain ⟨d', hd', hr⟩ := h.reaches cs.length c List.getElem?_concat_length
      rw [← hlen, List.getElem?_concat_length] at hd'
      cases hd'
      exact hr

theorem snoc {cs cs' : List (Course ρ)} {c c' : Course ρ} (h : Follow a cs cs')
    (hr : c.Reaches a c') : Follow a (cs ++ [c]) (cs' ++ [c']) where
  length := by rw [List.length_append, List.length_append, h.length]; rfl
  reaches id d hd := by
    by_cases hi : id < cs.length
    · rw [List.getElem?_append_left hi] at hd
      obtain ⟨d', hd', hreach⟩ := h.reaches id d hd
      exact ⟨d', (List.getElem?_append_left (h.length ▸ hi)).trans hd', hreach⟩
    · have hlast := (List.getElem?_eq_some_iff.mp hd).1
      rw [List.length_append] at hlast
      obtain rfl : id = cs.length := Nat.le_antisymm (Nat.le_of_lt_succ hlast) (Nat.not_lt.mp hi)
      rw [List.getElem?_concat_length] at hd
      cases hd
      rw [← h.length]
      exact ⟨c', List.getElem?_concat_length, hr⟩

end Follow

/-- The world follows courses that go on from these. -/
def World.GoesOn (a : Allowance ρ) (w : World ρ) (held : List (Task ρ)) (past : List (Trace ρ))
    (cs : List (Course ρ)) : Prop :=
  ∃ cs', Follow a cs cs' ∧ w.Tracks a held past cs'

namespace World

variable {w : World ρ} {held : List (Task ρ)} {past : List (Trace ρ)} {cs : List (Course ρ)}

theorem Tracks.goesOn (h : Tracks a w held past cs) : w.GoesOn a held past cs :=
  ⟨cs, .refl cs, h⟩

theorem GoesOn.bind {w' : World ρ} {held' : List (Task ρ)} (h : w.GoesOn a held past cs)
    (hn : ∀ cs', Tracks a w held past cs' → w'.GoesOn a held' past cs') :
    w'.GoesOn a held' past cs := by
  obtain ⟨middle, hf, ht⟩ := h
  obtain ⟨cs', hf', ht'⟩ := hn middle ht
  exact ⟨cs', hf.trans hf', ht'⟩

theorem GoesOn.alone {c : Course ρ} (h : w.GoesOn a held past [c]) :
    ∃ c', c.Reaches a c' ∧ w.Tracks a held past [c'] := by
  obtain ⟨ds, hf, ht⟩ := h
  have hf' : Follow a ([] ++ [c]) ds := hf
  obtain ⟨cs', c', rfl, hnil, hr⟩ := hf'.concat
  obtain rfl : cs' = [] := List.eq_nil_of_length_eq_zero hnil.length
  exact ⟨c', hr, ht⟩

end World

end Simulation
end CqlOperations
