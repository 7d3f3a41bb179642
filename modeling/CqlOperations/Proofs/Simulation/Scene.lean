import CqlOperations.Proofs.Pending
import CqlOperations.Proofs.Simulation.Clock
import CqlOperations.Proofs.Stack
import CqlOperations.Simulation.Scene

/-! What the calls of a program come to. Each of them follows the course of what it submits, so that
what holds of all courses holds of what a caller is told. -/
namespace CqlOperations

variable {σ ρ : Type}

/-- An execution starts with its requests, whatever is announced meanwhile. -/
theorem Operation.stage_of_submit {o : Operation σ ρ} {path : Path} {state : σ}
    {sub : Submission ρ} (h : (o.submit path state).1 = .ok sub) :
    sub.execution.stage = .gathering (o.gathering sub.statements) o.processors := by
  unfold Operation.submit at h
  dsimp only at h
  split at h
  next => cases h
  next =>
    cases h
    rfl

theorem Operation.awaitsRequest_of_fanOut {o : Operation σ ρ} {path : Path} {state : σ}
    {sub : Submission ρ} (h : (o.submit path state).1 = .ok sub) {type : BatchType}
    {creators : List (Creator σ)} (hb : o.base = .fanOut type creators) :
    sub.execution.awaitsRequest = false := by
  unfold Execution.awaitsRequest
  rw [stage_of_submit h, gathering, hb]
  dsimp only
  split
  next he =>
    split at he <;> cases he
  next => rfl

namespace Simulation

variable {a : Allowance ρ} {past : List (Trace ρ)} {cs : List (Course ρ)}

namespace World.Tracks

variable {w : World ρ} {held : List (Task ρ)}

/-- A new execution comes with the start of a new course. -/
theorem launch (h : Tracks a w held past cs) {f : Flow ρ} {sub : Submission ρ}
    (hx : f.execution = sub.execution)
    (hr : f.requests = sub.statements.map ({ statement := · }))
    (hfan : f.fanOut = true → sub.execution.awaitsRequest = false)
    (hd : a.does f.executor.discipline) (hm : f.mode ≠ .cancelled) {jobs : List (Job ρ)}
    (hj : ∀ j ∈ jobs, ∃ position, j = .request w.flows.length position ∧ f.fanOut = true) :
    Tracks a { w with flows := w.flows ++ [f], queue := w.queue ++ jobs } held past
      (cs ++ [Course.start sub]) := by
  have hnew : f.Tracks a (Course.start sub) :=
    { execution := hx
      statements := by
        rw [hr, List.map_map]
        exact List.map_id _
      requests := by
        rw [hr, List.map_map]
        rfl
      fanOut := hfan
      does := hd
      mode := hm
      stubs := by
        intro i r stub hi hs
        rw [hr, List.getElem?_map] at hi
        obtain ⟨statement, -, rfl⟩ := Option.map_eq_some_iff.mp hi
        cases hs }
  have hold : ∀ {id : Nat} {g : Flow ρ}, w.flows[id]? = some g →
      (w.flows ++ [f])[id]? = some g := fun hg =>
    (List.getElem?_append_left (List.getElem?_eq_some_iff.mp hg).1).trans hg
  have hnone : jobs.filterMap Job.task? = [] := by
    rw [List.filterMap_eq_nil_iff]
    intro j hmem
    obtain ⟨position, rfl, -⟩ := hj j hmem
    rfl
  exact
    { up := h.up
      ends := h.ends
      length := by rw [List.length_append, List.length_append, h.length]; rfl
      flows := by
        intro id g d hg hd
        by_cases hi : id < w.flows.length
        · rw [List.getElem?_append_left hi] at hg
          rw [List.getElem?_append_left (h.length ▸ hi)] at hd
          exact h.flows id g d hg hd
        · rw [List.getElem?_append_right (Nat.not_lt.mp hi)] at hg
          rw [List.getElem?_append_right (h.length ▸ Nat.not_lt.mp hi), h.length] at hd
          generalize id - w.flows.length = i at hg hd
          cases i with
          | zero =>
            cases hg
            cases hd
            exact hnew
          | succ i => cases hg
      requests := by
        intro id position hmem
        rcases List.mem_append.mp hmem with hmem | hmem
        · rcases List.mem_append.mp hmem with hmem | hmem
          · obtain ⟨g, hg, hgf⟩ := h.requests id position (List.mem_append_left _ hmem)
            exact ⟨g, hold hg, hgf⟩
          · obtain ⟨other, he, hf⟩ := hj _ hmem
            cases he
            exact ⟨f, List.getElem?_concat_length, hf⟩
        · obtain ⟨g, hg, hgf⟩ := h.requests id position (List.mem_append_right _ hmem)
          exact ⟨g, hold hg, hgf⟩
      tasks := by
        rw [Course.collect_append]
        have hp : ((w.queue ++ jobs) ++ w.timers.map Timer.job).filterMap Job.task? =
            w.jobs.filterMap Job.task? := by
          unfold World.jobs
          rw [List.filterMap_append, List.filterMap_append, hnone, List.append_nil,
            ← List.filterMap_append]
        change ((w.kept ++ ((w.queue ++ jobs) ++ w.timers.map Timer.job).filterMap Job.task? ++
          held).filterMap Task.owed?).Perm _
        rw [hp]
        exact (List.append_nil _).symm ▸ h.tasks
      traces := by
        rw [Course.collect_append]
        exact (List.append_nil _).symm ▸ h.traces }

/-- Joining an execution gives what its course came to. -/
theorem joined?_eq (h : Tracks a w held past cs) {id : Nat} {c : Course ρ}
    (hc : cs[id]? = some c) : w.joined? id = c.execution.result? := by
  obtain ⟨f, hf, ht⟩ := h.flow hc
  unfold World.joined?
  rw [hf, ← ht.execution]
  simp only [Option.bind_eq_bind, Option.bind_some, if_neg ht.mode, Option.or_none]

theorem stage?_eq (h : Tracks a w held past cs) {id : Nat} {c : Course ρ}
    (hc : cs[id]? = some c) : w.stage? id = some c.execution.stage := by
  obtain ⟨f, hf, ht⟩ := h.flow hc
  unfold World.stage?
  rw [hf, ← ht.execution]
  rfl

end World.Tracks

/-- What an answer says of the course that was waited for. -/
def Answer.Tells (c : Course ρ) : Answer ρ → Prop
  | .result r => c.execution.stage = .ended r
  | .panicked message => c.execution.stage = .unwound message
  | _ => c.execution.result? = none

/-- What a wait with this limit is told when it ends. A limit that is too long to wait for counts as
none. -/
def Answer.ofWait (limit : Option Duration) (found? : Option (Result ρ)) : Answer ρ :=
  match found?, limit.filter (·.ceilMilliseconds ≤ patience) with
  | some r, _ => .result r
  | none, some limit => .result (.error (.waitTimeout limit))
  | none, none => .stuck

namespace Scene

variable {s : Scene ρ} {o : Operation String ρ} {path : Path} {sub : Submission ρ} {after : String}

/-- In the beginning nothing goes on. -/
theorem setUp_tracks (setup : Setup ρ) {a : Allowance ρ}
    (h : ∀ statement n, a.ends statement (setup.treatment statement n).ending) :
    (Scene.setUp setup).world.Tracks a [] [] [] where
  up := rfl
  ends := h
  length := rfl
  flows _ _ _ hf := by cases hf
  requests _ _ hj := by cases hj
  tasks := .refl _
  traces := .refl _

theorem launch_tracks (h : s.world.Tracks a [] past cs)
    (hs : o.submit path s.state = (.ok sub, [], after))
    (hd : a.does o.options.taskExecutor.discipline) (name : String) :
    (s.launch o path name).2 = .ok cs.length ∧
      (s.launch o path name).1.world.Tracks a [] past (cs ++ [Course.start sub]) := by
  have hsub : (o.submit path s.state).1 = .ok sub := by rw [hs]
  unfold Scene.launch
  rw [hs]
  have hdown : ¬ s.world.down = true := by
    rw [h.up]
    exact Bool.false_ne_true
  have hand : ∀ b : Bool, (b && !s.world.down) = b := by
    intro b
    rw [h.up, Bool.not_false, Bool.and_true]
  simp only [World.perform, if_neg hdown, hand]
  refine ⟨by rw [h.length], ?_⟩
  refine World.Tracks.launch h ?_ ?_ ?_ ?_ ?_ ?_
  · rfl
  · rfl
  · intro hfan
    cases hb : o.base with
    | fanOut type creators => exact Operation.awaitsRequest_of_fanOut hsub hb
    | single creator =>
      rw [hb] at hfan
      cases hfan
    | known statement result =>
      rw [hb] at hfan
      cases hfan
  · exact hd
  · intro hm
    cases hm
  · intro j hj
    obtain ⟨hfan, hj⟩ := List.mem_ite_nil_right.mp hj
    obtain ⟨position, -, rfl⟩ := List.mem_map.mp hj
    exact ⟨position, rfl, hfan⟩

/-- Who waits for a course is told how it ended, if it did. -/
theorem drive_tracks (h : s.world.Tracks a [] past cs) {id : Nat} {c : Course ρ}
    (hc : cs[id]? = some c) :
    ∃ cs' c', Follow a cs cs' ∧ cs'[id]? = some c' ∧ c.Reaches a c' ∧
      (s.drive id).1.world.Tracks a [] past cs' ∧ (s.drive id).2.Tells c' := by
  obtain ⟨cs', hf, ht⟩ := h.driveFlow id
  obtain ⟨c', hc', hreach⟩ := hf.reaches id c hc
  refine ⟨cs', c', hf, hc', hreach, ?_⟩
  unfold Scene.drive
  dsimp only
  rw [ht.stage?_eq hc']
  cases hx : c'.execution.stage with
  | ended r => exact ⟨ht, hx⟩
  | unwound message => exact ⟨ht, hx⟩
  | gathering g processors =>
    refine ⟨ht.dropFlow id, ?_⟩
    simp only [Answer.Tells, Execution.result?, hx]
  | processing processors made? =>
    refine ⟨ht.dropFlow id, ?_⟩
    simp only [Answer.Tells, Execution.result?, hx]

/-- One execution on behalf of a caller is a course of its submission, and the caller is told how
that ended. -/
theorem execute_tracks (h : s.world.Tracks a [] past cs)
    (hs : o.submit .caller s.state = (.ok sub, [], after))
    (hd : a.does o.options.taskExecutor.discipline) :
    ∃ cs' c, Follow a cs cs' ∧ (Course.start sub).Reaches a c ∧
      (s.execute o).1.world.Tracks a [] past (cs' ++ [c]) ∧ (s.execute o).2.Tells c := by
  obtain ⟨hl, ht⟩ := launch_tracks h hs hd ""
  unfold Scene.execute
  cases hlaunch : s.launch o .caller "" with
  | mk launched id =>
    rw [hlaunch] at hl ht
    subst hl
    obtain ⟨ds, c, hf, hc, hreach, hdriven, htells⟩ := drive_tracks ht List.getElem?_concat_length
    obtain ⟨cs', c', rfl, hf', hreach'⟩ := hf.concat
    have hlen : cs'.length = cs.length := hf'.length
    rw [← hlen, List.getElem?_concat_length] at hc
    cases hc
    exact ⟨cs', c, hf', hreach', hdriven, htells⟩

theorem spawn_tracks (h : s.world.Tracks a [] past cs) (id : Nat) :
    (s.spawn id).world.Tracks a [] past cs := by
  unfold Scene.spawn
  rw [h.up]
  exact h.wake id

theorem submit_tracks (h : s.world.Tracks a [] past cs)
    (hs : o.submit .caller s.state = (.ok sub, [], after))
    (hd : a.does o.options.taskExecutor.discipline) :
    (s.submit o).2 = .ok (.ofExecution sub.execution cs.length) ∧
      (s.submit o).1.world.Tracks a [] past (cs ++ [Course.start sub]) := by
  obtain ⟨hl, ht⟩ := launch_tracks h hs hd ""
  unfold Scene.submit
  cases hlaunch : s.launch o .caller "" with
  | mk launched id =>
    rw [hlaunch] at hl ht
    subst hl
    obtain ⟨f, hf, hfc⟩ := ht.flow List.getElem?_concat_length
    have hx : f.execution = sub.execution := hfc.execution
    dsimp only
    rw [hf, Option.map_some, hx]
    unfold Pending.ofExecution
    cases hk : sub.execution.known? with
    | some r => exact ⟨rfl, ht⟩
    | none => exact ⟨rfl, spawn_tracks ht cs.length⟩

/-- A wait takes the result if it is there at the end, and is over or stuck if not. -/
theorem awaitPending_tracks (h : s.world.Tracks a [] past cs) {id : Nat} {c : Course ρ}
    (hc : cs[id]? = some c) (hopen : c.execution.result? = none) (x : Execution ρ)
    (limit : Option Duration) :
    ∃ cs' c', Follow a cs cs' ∧ cs'[id]? = some c' ∧ c.Reaches a c' ∧
      (s.awaitPending (.ofExecution x id) limit).1.world.Tracks a [] past cs' ∧
      (s.awaitPending (.ofExecution x id) limit).2.2 =
        Answer.ofWait limit ((Pending.ofExecution x ()).poll fun _ => c'.execution.result?).2 := by
  unfold Scene.awaitPending Pending.ofExecution Answer.ofWait
  cases hk : x.known? with
  | some r =>
    refine ⟨cs, c, .refl cs, hc, .refl, ?_⟩
    cases hb : limit.filter (·.ceilMilliseconds ≤ patience) with
    | some d => exact ⟨h, rfl⟩
    | none => exact ⟨h, rfl⟩
  | none =>
    have hbefore : s.world.joined? id = none := (h.joined?_eq hc).trans hopen
    have hdown : ¬ s.world.down = true := by
      rw [h.up]
      nofun
    simp only [if_neg hdown]
    obtain ⟨cs', hf, ht⟩ := h.waitFor id (s.world.now +
      ((limit.filter (·.ceilMilliseconds ≤ patience)).map Duration.ceilMilliseconds).getD patience)
    obtain ⟨c', hc', hreach⟩ := hf.reaches id c hc
    have hafter := ht.joined?_eq hc'
    refine ⟨cs', c', hf, hc', hreach, ?_⟩
    generalize s.world.waitFor id _ = waited at ht hafter ⊢
    have hw : ((Pending.inFlight id).wait s.world.joined? waited.joined?).2 =
        c'.execution.result? :=
      (Pending.wait_inFlight fun r hr => by rw [hbefore] at hr; cases hr).trans hafter
    cases hb : limit.filter (·.ceilMilliseconds ≤ patience) with
    | some d =>
      refine ⟨ht, ?_⟩
      dsimp only
      rw [Pending.waitWithin_eq, hw, Pending.poll_inFlight]
      cases c'.execution.result? <;> rfl
    | none =>
      dsimp only
      rw [Pending.poll_inFlight]
      generalize (Pending.inFlight id).wait s.world.joined? waited.joined? = found at hw ⊢
      obtain ⟨handle, found?⟩ := found
      obtain rfl : found? = c'.execution.result? := hw
      cases c'.execution.result? with
      | some r => exact ⟨ht, rfl⟩
      | none => exact ⟨ht, rfl⟩

/-- An execution that is left to the runtime is a course of its submission too, and a wait for it is
told the result if that came in time. -/
theorem executeDetached_tracks (h : s.world.Tracks a [] past cs)
    (hs : o.submit .caller s.state = (.ok sub, [], after))
    (hd : a.does o.options.taskExecutor.discipline) (limit : Option Duration) :
    ∃ cs' c, Follow a cs cs' ∧ (Course.start sub).Reaches a c ∧
      (s.executeDetached o limit).1.world.Tracks a [] past (cs' ++ [c]) ∧
      (s.executeDetached o limit).2 =
        .ofWait limit (sub.handle.poll fun _ => c.execution.result?).2 := by
  obtain ⟨hl, ht⟩ := submit_tracks h hs hd
  unfold Scene.executeDetached
  cases hsubmit : s.submit o with
  | mk submitted handle =>
    rw [hsubmit] at hl ht
    subst hl
    have hopen : (Course.start sub).execution.result? = none := by
      unfold Execution.result?
      rw [show (Course.start sub).execution.stage = _ from
        Operation.stage_of_submit (by rw [hs])]
    obtain ⟨ds, c, hf, hc, hreach, hwait, ha⟩ :=
      awaitPending_tracks ht List.getElem?_concat_length hopen sub.execution limit
    obtain ⟨cs', c', rfl, hf', hreach'⟩ := hf.concat
    have hlen : cs'.length = cs.length := hf'.length
    rw [← hlen, List.getElem?_concat_length] at hc
    cases hc
    refine ⟨cs', c, hf', hreach', ?_⟩
    have hdown : ¬ (submitted.world.down = true ∧ limit.isSome = true) := by
      rw [show submitted.world.down = false from ht.up]
      exact fun hd => Bool.false_ne_true hd.1
    unfold Scene.awaitInContext
    simp only [if_neg hdown]
    exact ⟨hwait, ha⟩

/-- With a callback the call is over at once, and the course of its submission has begun. -/
theorem callback_tracks (h : s.world.Tracks a [] past cs)
    (hs : o.submit .callback s.state = (.ok sub, [], after))
    (hd : a.does o.options.taskExecutor.discipline) (name : String) :
    (s.callback o name).2 = .done ∧
      (s.callback o name).1.world.Tracks a [] past (cs ++ [Course.start sub]) := by
  obtain ⟨hl, ht⟩ := launch_tracks h hs hd name
  unfold Scene.callback
  cases hlaunch : s.launch o .callback name with
  | mk launched id =>
    rw [hlaunch] at hl ht
    subst hl
    exact ⟨rfl, spawn_tracks ht cs.length⟩

end Scene
end Simulation
end CqlOperations
