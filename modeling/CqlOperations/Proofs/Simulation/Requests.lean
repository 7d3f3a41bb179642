import CqlOperations.Proofs.Simulation.Tasks

/-! Requests of a world on their way, and those of its courses. -/
namespace CqlOperations.Simulation

variable {ρ : Type} {a : Allowance ρ}

namespace Request

theorem grant_statement (r : Request ρ) : r.grant.statement = r.statement := by
  unfold grant
  split <;> rfl

theorem grant_progress (r : Request ρ) : r.grant.phase.progress = r.phase.progress := by
  unfold grant
  split
  next h => rw [h]; rfl
  next => rfl

theorem grant_stub? (r : Request ρ) : r.grant.phase.stub? = r.phase.stub? := by
  unfold grant
  split
  next h => rw [h]; rfl
  next => rfl

end Request

namespace World

variable {w : World ρ} {held : List (Task ρ)} {past : List (Trace ρ)} {cs : List (Course ρ)}

/-- An environment of statements that the session treats as the first ones of their keys. -/
def conditions (w : World ρ) (f : Flow ρ) (statements : List Statement) : Environment ρ where
  outcome i := (w.treatment (statements[i]?.getD (.ofText "")) 0).ending
  discipline _ := f.executor.discipline

namespace Tracks

/-- A request comes to a new phase, and so it does in its course. -/
theorem setPhase (h : Tracks a w held past cs) {id position : Nat} {f : Flow ρ} {c : Course ρ}
    (c' : Course ρ) {r : Request ρ} (hf : w.flows[id]? = some f) (hc : cs[id]? = some c)
    (hr : f.requests[position]? = some r) (phase : Phase ρ)
    (hs : ∀ stub, phase.stub? = some stub → a.ends r.statement stub.ending)
    (hx : c'.execution = c.execution) (hst : c'.statements = c.statements)
    (hreq : c'.requests = c.requests.set position phase.progress)
    (hk : c'.kept = c.kept) (hran : c'.ran = c.ran) :
    Tracks a (w.setPhase id position phase) held past (cs.set id c') := by
  have ht := h.flows id f c hf hc
  have hw : w.setPhase id position phase =
      { w with flows :=
        (w.flows.set id { f with requests := f.requests.set position { r with phase } }) } := by
    unfold World.setPhase World.modifyFlow
    rw [modify_eq_set hf, modify_eq_set hr]
  rw [hw]
  refine h.set hf hc ?_ rfl hk hran
  exact
    { execution := ht.execution.trans hx.symm
      statements := by
        rw [hst, ← ht.statements, List.map_set]
        exact set_eq_self (by rw [List.getElem?_map, hr]; rfl)
      requests := by rw [hreq, ← ht.requests, List.map_set]
      fanOut := hx ▸ ht.fanOut
      does := ht.does
      mode := ht.mode
      stubs := by
        intro i s stub hi hstub
        by_cases hp : position = i
        · subst hp
          rw [List.getElem?_set_self (List.getElem?_eq_some_iff.mp hr).1] at hi
          cases hi
          exact hs stub hstub
        · exact ht.stubs i s stub ((List.getElem?_set_ne hp).symm.trans hi) hstub }

/-- Nothing that a course knows of changes. -/
theorem aside (h : Tracks a w held past cs) {w' : World ρ} (hd : w'.down = w.down)
    (ht : w'.treatment = w.treatment) (hf : w'.flows = w.flows) (he : w'.events = w.events)
    (hk : w'.kept = w.kept) (hj : w'.jobs = w.jobs) : Tracks a w' held past cs := by
  refine h.rearrange hd ht hf he (fun id position hm => hj ▸ hm) ?_
  unfold World.tasks
  rw [hk, hj]

/-- Statements may end as the session treats the first ones of their keys. -/
theorem within_conditions (h : Tracks a w held past cs) {f : Flow ρ} {c : Course ρ}
    (ht : f.Tracks a c) (statements : List Statement) :
    (w.conditions f statements).Within a statements where
  ends i statement hi := by
    change a.ends statement (w.treatment (statements[i]?.getD (.ofText "")) 0).ending
    rw [hi]
    exact h.ends statement 0
  others _ _ := ⟨_, h.ends _ 0⟩
  does _ := ht.does

/-- Whatever is still to be decided can be. -/
theorem exists_within (h : Tracks a w held past cs) {f : Flow ρ} {c : Course ρ}
    (ht : f.Tracks a c) :
    ∃ env : Environment ρ, env.Within a c.statements ∧
      ∀ i, env.discipline i = f.executor.discipline :=
  ⟨_, h.within_conditions ht c.statements, fun _ => rfl⟩

end Tracks
end World

/-- A course sends a statement on its own or when it is polled. -/
theorem reaches_send {c : Course ρ} {env : Environment ρ} (he : env.Within a c.statements)
    {position : Nat} (hp : c.execution.awaitsRequest = true → position = 0) :
    c.Reaches a (c.send position) := by
  cases hw : c.execution.awaitsRequest with
  | true =>
    obtain rfl := hp hw
    have hm := Course.Reaches.move (Relation.ReflTransGen.refl (a := c)) he .poll
    rwa [Course.step, Course.poll_of_awaitsRequest env hw] at hm
  | false =>
    have hm := Course.Reaches.move (Relation.ReflTransGen.refl (a := c)) he (.send position)
    simpa only [Course.step, hw, Bool.false_eq_true, if_false] using hm

theorem send_requests {c : Course ρ} {position : Nat} {p : Progress} {statement : Statement}
    (hp : c.requests[position]? = some p) (hne : p ≠ .ended)
    (hs : c.statements[position]? = some statement) :
    (c.send position).requests = c.requests.set position .sent := by
  unfold Course.send
  rw [hp, hs]
  cases p with
  | spawned => rfl
  | sent => exact (set_eq_self hp).symm
  | ended => exact absurd rfl hne

theorem send_same (c : Course ρ) (position : Nat) :
    (c.send position).execution = c.execution ∧ (c.send position).statements = c.statements ∧
      (c.send position).kept = c.kept ∧ (c.send position).ran = c.ran := by
  unfold Course.send
  split <;> exact ⟨rfl, rfl, rfl, rfl⟩

namespace World.Tracks

variable {w : World ρ} {held : List (Task ρ)} {past : List (Trace ρ)} {cs : List (Course ρ)}
  {id position : Nat} {f : Flow ρ} {r : Request ρ}

/-- A request that is not over waits for something, once it was sent. -/
theorem waits (h : Tracks a w held past cs) (hf : w.flows[id]? = some f)
    (hr : f.requests[position]? = some r) (hne : r.phase.progress ≠ .ended)
    (hp : f.execution.awaitsRequest = true → position = 0) (phase : Phase ρ) {stub : Stub ρ}
    (hs : phase.stub? = some stub) (he : a.ends r.statement stub.ending) :
    (w.setPhase id position phase).GoesOn a held past cs := by
  obtain ⟨c, hc, ht⟩ := h.course hf
  have hst : c.statements[position]? = some r.statement := by
    rw [← ht.statements, List.getElem?_map, hr]
    rfl
  have hreq : c.requests[position]? = some r.phase.progress := by
    rw [← ht.requests, List.getElem?_map, hr]
    rfl
  have hsent := Phase.progress_of_stub? hs
  obtain ⟨hx, hss, hk, hran⟩ := send_same c position
  obtain ⟨env, hwithin, -⟩ := h.exists_within ht
  refine ⟨cs.set id (c.send position), .set hc (reaches_send hwithin (ht.execution ▸ hp)), ?_⟩
  refine h.setPhase _ hf hc hr phase (fun other ho => ?_) hx hss ?_ hk hran
  · rw [hs] at ho
    cases ho
    exact he
  · rw [hsent]
    exact send_requests hreq hne hst

theorem resolveRequest (h : Tracks a w held past cs) (hf : w.flows[id]? = some f)
    (hr : f.requests[position]? = some r) (hne : r.phase.progress ≠ .ended)
    (hp : f.execution.awaitsRequest = true → position = 0) {resolution : Resolution ρ}
    (he : a.ends r.statement resolution) :
    (w.resolveRequest id position resolution).GoesOn a held past cs := by
  obtain ⟨c, hc, ht⟩ := h.course hf
  have hst : c.statements[position]? = some r.statement := by
    rw [← ht.statements, List.getElem?_map, hr]
    rfl
  have hreq : c.requests[position]? = some r.phase.progress := by
    rw [← ht.requests, List.getElem?_map, hr]
    rfl
  obtain ⟨hx, hss, hk, hran⟩ := send_same c position
  have hsend := send_requests hreq hne hst
  obtain ⟨env, hwithin, -⟩ := h.exists_within ht
  have hending := hwithin.ending hst he
  have hreach := (reaches_send hending (ht.execution ▸ hp)).move (hss ▸ hending)
    (.resolve position)
  generalize c.send position = sent at hx hss hk hran hsend hreach
  have hpos := (List.getElem?_eq_some_iff.mp hreq).1
  have hresolve : sent.requests[position]? = some .sent := by
    rw [hsend, List.getElem?_set_self hpos]
  rw [Course.step] at hreach
  unfold Course.resolve at hreach
  rw [hresolve, Environment.outcome_ending] at hreach
  have hphase := h.setPhase { sent with requests := sent.requests.set position .ended } hf hc hr
    .over (fun _ ho => by cases ho) hx hss (by rw [hsend, List.set_set]; rfl) hk hran
  have hnote := hphase.note (List.getElem?_set_self (List.getElem?_eq_some_iff.mp hc).1)
    (.resolved position resolution)
  rw [List.set_set] at hnote
  refine ⟨_, .set hc hreach, ?_⟩
  unfold World.resolveRequest
  dsimp only
  split
  next => exact hnote.wake id
  next => exact hnote

theorem finishRequest (h : Tracks a w held past cs) (hf : w.flows[id]? = some f)
    (hr : f.requests[position]? = some r) (hne : r.phase.progress ≠ .ended)
    (hp : f.execution.awaitsRequest = true → position = 0) (key : String) {stub : Stub ρ}
    (he : a.ends r.statement stub.ending) :
    (w.finishRequest id position key stub).GoesOn a held past cs := by
  unfold World.finishRequest
  split
  next message hm => exact h.resolveRequest hf hr hne hp (hm ▸ he)
  next => exact (h.log (e := .done key) rfl).resolveRequest hf hr hne hp he

theorem enterGate (h : Tracks a w held past cs) (hf : w.flows[id]? = some f)
    (hr : f.requests[position]? = some r) (hne : r.phase.progress ≠ .ended)
    (hp : f.execution.awaitsRequest = true → position = 0) (key : String) {stub : Stub ρ}
    (he : a.ends r.statement stub.ending) :
    (w.enterGate id position key stub).GoesOn a held past cs := by
  unfold World.enterGate
  split
  next => exact h.finishRequest hf hr hne hp key he
  next =>
    split
    next =>
      have haside : Tracks a { w with permits := w.permits.erase key } held past cs :=
        h.aside rfl rfl rfl rfl rfl rfl
      exact haside.finishRequest hf hr hne hp key he
    next =>
      have haside : Tracks a { w with waiters := w.waiters ++ [(⟨key, id, position⟩ : Waiter)] }
          held past cs :=
        h.aside rfl rfl rfl rfl rfl rfl
      exact haside.waits hf hr hne hp (.waiting stub) rfl he

/-- A job of a request is one of its own or that of its execution. -/
theorem requestJob_eq (w : World ρ) (id position : Nat) :
    w.requestJob id position = .flow id ∨ w.requestJob id position = .request id position ∧
      ∃ f, w.flows[id]? = some f ∧ f.fanOut = true := by
  unfold World.requestJob
  split
  next f hf =>
    split
    next hfan => exact .inr ⟨rfl, f, hf, hfan⟩
    next => exact .inl rfl
  next => exact .inl rfl

theorem requestJob_task? (w : World ρ) (id position : Nat) :
    (w.requestJob id position).task? = none := by
  rcases requestJob_eq w id position with hj | ⟨hj, -⟩ <;> rw [hj] <;> rfl

theorem exists_of_requestJob {w : World ρ} {id position other place : Nat}
    (h : w.requestJob id position = .request other place) :
    ∃ f, w.flows[other]? = some f ∧ f.fanOut = true := by
  rcases requestJob_eq w id position with hj | ⟨hj, hf⟩
  · rw [hj] at h
    cases h
  · rw [hj] at h
    cases h
    exact hf

theorem addTimer (h : Tracks a w held past cs) (due position : Nat) :
    Tracks a { w with timers := w.timers ++ [(⟨due, w.requestJob id position⟩ : Timer ρ)] }
      held past cs := by
  refine h.addJob rfl rfl rfl rfl rfl ?_ (requestJob_task? w id position)
    fun _ _ => exists_of_requestJob
  unfold World.jobs
  rw [List.map_append, ← List.append_assoc]
  exact .refl _

/-- A request goes on until it has to wait, and its course with it. -/
theorem pollRequest (h : Tracks a w held past cs)
    (hp : ∀ f, w.flows[id]? = some f → f.execution.awaitsRequest = true → position = 0) :
    (w.pollRequest id position).GoesOn a held past cs := by
  unfold World.pollRequest
  split
  next => exact h.goesOn
  next r hr =>
    obtain ⟨f, hf, hr⟩ := Option.bind_eq_some_iff.mp hr
    obtain ⟨c, hc, ht⟩ := h.course hf
    dsimp only
    split
    next hphase =>
      have hne : r.phase.progress ≠ .ended := by rw [hphase]; nofun
      have he := h.ends r.statement (w.received.count r.statement.key)
      have haside : Tracks a { w with received := r.statement.key :: w.received } held past cs :=
        h.aside rfl rfl rfl rfl rfl rfl
      have hlog := haside.log (e := .received r.statement) rfl
      split
      next => exact hlog.enterGate hf hr hne (hp f hf) _ he
      next delay hdelay =>
        split
        next hd =>
          rw [hlog.up] at hd
          cases hd
        next =>
          split
          next => exact hlog.enterGate hf hr hne (hp f hf) _ he
          next =>
            exact (hlog.addTimer _ position).waits hf hr hne (hp f hf) (.sleeping _ _) rfl he
    next due stub hphase =>
      have hne : r.phase.progress ≠ .ended := by rw [hphase]; nofun
      have he := ht.stubs position r stub hr (by rw [hphase]; rfl)
      split
      next hd =>
        rw [h.up] at hd
        cases hd
      next =>
        split
        next => exact h.goesOn
        next => exact h.enterGate hf hr hne (hp f hf) _ he
    next stub hphase =>
      have hne : r.phase.progress ≠ .ended := by rw [hphase]; nofun
      have he := ht.stubs position r stub hr (by rw [hphase]; rfl)
      exact h.finishRequest hf hr hne (hp f hf) _ he
    next => exact h.goesOn
    next => exact h.goesOn

/-- A request changes in a way that its course knows nothing of. -/
theorem modifyRequest {f : Flow ρ} {c : Course ρ} (h : f.Tracks a c) (position : Nat)
    {g : Request ρ → Request ρ} (hs : ∀ r, (g r).statement = r.statement)
    (hp : ∀ r, (g r).phase.progress = r.phase.progress)
    (hstub : ∀ r, (g r).phase.stub? = r.phase.stub?) :
    Flow.Tracks a { f with requests := f.requests.modify position g } c where
  execution := h.execution
  statements := (map_modify_eq hs _ _).trans h.statements
  requests := (map_modify_eq hp _ _).trans h.requests
  fanOut := h.fanOut
  does := h.does
  mode := h.mode
  stubs i r stub hi hr := by
    rw [List.getElem?_modify] at hi
    obtain ⟨old, ho, rfl⟩ := Option.map_eq_some_iff.mp hi
    by_cases hi : position = i
    · rw [if_pos hi] at hr ⊢
      rw [hs]
      exact h.stubs i old stub ho ((hstub old).symm.trans hr)
    · rw [if_neg hi] at hr ⊢
      exact h.stubs i old stub ho hr

/-- One execution changes in a way that its course knows nothing of. -/
theorem modifyFlow (h : Tracks a w held past cs) (id : Nat) {g : Flow ρ → Flow ρ}
    (hg : ∀ f c, Flow.Tracks a f c → (g f).Tracks a c) (hfan : ∀ f, (g f).fanOut = f.fanOut) :
    Tracks a (w.modifyFlow id g) held past cs := by
  cases hf : w.flows[id]? with
  | none =>
    have hm : w.flows.modify id g = w.flows := by
      rw [List.modify_eq_set_getElem?, hf]
      rfl
    unfold World.modifyFlow
    rw [hm]
    exact h
  | some f =>
    obtain ⟨c, hc, ht⟩ := h.course hf
    have hs := h.set hf hc (hg f c ht) (hfan f) rfl rfl
    unfold World.modifyFlow
    rwa [modify_eq_set hf, ← set_eq_self hc]

theorem release (h : Tracks a w held past cs) (key : String) :
    Tracks a (w.release key) held past cs := by
  unfold World.release
  split
  next => exact h.aside rfl rfl rfl rfl rfl rfl
  next waiter _ =>
    have haside : Tracks a { w with waiters := w.waiters.eraseP (·.key = key) } held past cs :=
      h.aside rfl rfl rfl rfl rfl rfl
    have hgrant := haside.modifyFlow waiter.flow
      (fun _ _ ht => modifyRequest ht waiter.position Request.grant_statement
        Request.grant_progress Request.grant_stub?) fun _ => rfl
    dsimp only
    split
    next => exact hgrant.wake _
    next => exact hgrant.enqueue (requestJob_task? _ _ _) fun _ _ => exists_of_requestJob

/-- Nobody polls the execution any more. -/
theorem dropFlow (h : Tracks a w held past cs) (id : Nat) :
    Tracks a (w.dropFlow id) held past cs := by
  unfold World.dropFlow
  split
  next => exact h
  next f hf =>
    have hdropped := h.modifyFlow id (g := fun flow => { flow with mode := .dropped })
      (fun f c ht => { ht with mode := nofun })
      (fun _ => rfl)
    dsimp only
    split
    next => exact hdropped
    next =>
      split
      next =>
        refine Tracks.release ?_ _
        exact hdropped.aside rfl rfl rfl rfl rfl rfl
      next => exact hdropped.aside rfl rfl rfl rfl rfl rfl

end World.Tracks
end CqlOperations.Simulation
