import CqlOperations.Proofs.Simulation.Calls
import CqlOperations.Proofs.Simulation.Scene

/-! What the session of a world received: of each execution the statements of the requests that were
sent, once each. Only a request that is polled for the first time sends anything; all else that
happens leaves the mail of the world as it is. -/
namespace CqlOperations.Simulation

variable {ρ : Type}

def Event.received? : Event ρ → Option Statement
  | .received statement => some statement
  | _ => none

/-- A request sends its statement as it leaves its first phase. -/
def Request.sent (r : Request ρ) : List Statement :=
  match r.phase with
  | .fresh => []
  | _ => [r.statement]

def Flow.sent (f : Flow ρ) : List Statement :=
  f.requests.flatMap Request.sent

theorem Request.sent_eq (r : Request ρ) :
    r.sent = if r.phase.progress = .spawned then [] else [r.statement] := by
  unfold sent
  cases r.phase <;> rfl

/-- No statement is sent twice. -/
theorem Flow.sent_sublist (f : Flow ρ) : f.sent.Sublist (f.requests.map Request.statement) := by
  unfold sent
  induction f.requests with
  | nil => exact .slnil
  | cons r rest ih =>
    rw [List.flatMap_cons, List.map_cons, r.sent_eq]
    split
    next => exact ih.cons r.statement
    next => exact ih.cons_cons r.statement

/-- Once all requests are over each statement was sent. -/
theorem Flow.sent_of_ended {f : Flow ρ} (h : ∀ r ∈ f.requests, r.phase.progress = .ended) :
    f.sent = f.requests.map Request.statement := by
  unfold sent
  revert h
  induction f.requests with
  | nil => exact fun _ => rfl
  | cons r rest ih =>
    intro h
    have hne : r.phase.progress ≠ .spawned := by
      rw [h r List.mem_cons_self]
      nofun
    rw [List.flatMap_cons, List.map_cons, r.sent_eq, if_neg hne,
      ih fun r hr => h r (List.mem_cons_of_mem _ hr), List.singleton_append]

theorem map_modify_congr {α β : Type} {f : α → β} {g g' : α → α} (h : ∀ x, f (g x) = f (g' x))
    (xs : List α) (i : Nat) : (xs.modify i g).map f = (xs.modify i g').map f := by
  cases hx : xs[i]? with
  | none => rw [List.modify_eq_set_getElem?, List.modify_eq_set_getElem?, hx]; rfl
  | some x => rw [modify_eq_set hx, modify_eq_set hx, List.map_set, List.map_set, h]

/-- One list of many has one more element. -/
theorem flatten_set_perm {α : Type} {xss : List (List α)} {i : Nat} {xs ys : List α} {x : α}
    (h : xss[i]? = some xs) (hp : ys.Perm (x :: xs)) :
    (xss.set i ys).flatten.Perm (x :: xss.flatten) := by
  obtain ⟨hi, rfl⟩ := List.getElem?_eq_some_iff.mp h
  calc
    (xss.set i ys).flatten.Perm (ys ++ (xss.eraseIdx i).flatten) :=
      (List.set_perm_cons_eraseIdx hi ys).flatten
    List.Perm _ (x :: xss[i] ++ (xss.eraseIdx i).flatten) := hp.append_right _
    List.Perm _ (x :: xss.flatten) := (List.getElem_cons_eraseIdx_perm hi).flatten.cons x

namespace World

/-- The statements that the session received, in order. -/
def receipts (w : World ρ) : List Statement :=
  w.events.filterMap Event.received?

/-- What was received and what each execution has sent. -/
def mail (w : World ρ) : List Statement × List (List Statement) :=
  (w.receipts, w.flows.map Flow.sent)

/-- What was received is what all executions have sent. -/
def Balanced (w : World ρ) : Prop :=
  w.receipts.Perm (w.flows.map Flow.sent).flatten

theorem Balanced.of_mail {w w' : World ρ} (h : w.Balanced) (hm : w'.mail = w.mail) :
    w'.Balanced := by
  have hreceipts : w'.receipts = w.receipts := congrArg Prod.fst hm
  have hsent : w'.flows.map Flow.sent = w.flows.map Flow.sent := congrArg Prod.snd hm
  unfold Balanced
  rw [hreceipts, hsent]
  exact h

/-! Operations that leave the mail as it is. -/

theorem mail_log (w : World ρ) {e : Event ρ} (he : e.received? = none) :
    (w.log e).mail = w.mail := by
  unfold mail receipts log
  rw [List.filterMap_append, List.filterMap_cons_none he, List.filterMap_nil, List.append_nil]

theorem mail_modifyFlow (w : World ρ) (id : Nat) {g : Flow ρ → Flow ρ}
    (hg : ∀ f, (g f).sent = f.sent) : (w.modifyFlow id g).mail = w.mail := by
  unfold mail modifyFlow
  dsimp only
  rw [map_modify_eq hg]
  rfl

theorem mail_signal (w : World ρ) (id : Nat) (s : Signal ρ) : (w.signal id s).1.mail = w.mail := by
  unfold signal
  split
  next => rfl
  next f hf =>
    unfold mail
    dsimp only
    rw [List.map_set]
    refine congrArg (Prod.mk w.receipts) (set_eq_self ?_)
    rw [List.getElem?_map, hf]
    rfl

theorem mail_note (w : World ρ) (id : Nat) (s : Signal ρ) : (w.note id s).mail = w.mail :=
  w.mail_signal id s

theorem mail_wake (w : World ρ) (id : Nat) : (w.wake id).mail = w.mail := by
  unfold wake
  split
  next => split <;> rfl
  next => rfl

theorem mail_runTask (w : World ρ) (t : Task ρ) : (w.runTask t).1.mail = w.mail := by
  cases t with
  | report r => exact w.mail_log rfl
  | deliver name output => exact w.mail_log rfl
  | complete name r => exact w.mail_log rfl
  | process id processor input =>
    unfold runTask
    dsimp only
    split
    next => rw [mail_wake, mail_note, mail_log w rfl]
    next => rw [mail_wake, mail_note, mail_log w rfl]

theorem mail_dropTask (w : World ρ) (t : Task ρ) : (w.dropTask t).mail = w.mail := by
  cases t with
  | process id processor input => exact (mail_wake _ id).trans (w.mail_note id .dropped)
  | report r => rfl
  | deliver name output => rfl
  | complete name r => rfl

theorem mail_hand (w : World ρ) (t : Task ρ) (executor : Executor) :
    (w.hand t executor).1.mail = w.mail := by
  cases executor with
  | inline => exact w.mail_runTask t
  | blockingPool runtime =>
    unfold hand
    dsimp only
    split
    next => exact w.mail_dropTask t
    next => rfl
  | logged name d =>
    have hlog : (w.log (.executor name)).mail = w.mail := w.mail_log rfl
    cases d with
    | runs => exact (mail_runTask _ t).trans hlog
    | drops => exact (mail_dropTask _ t).trans hlog
    | keeps => exact hlog

theorem mail_perform (w : World ρ) (id : Nat) (executor : Executor) (name : String)
    (actions : List (Action ρ)) : (w.perform id executor name actions).mail = w.mail := by
  induction actions generalizing w with
  | nil => rfl
  | cons action rest ih =>
    rcases perform_cons w id executor name action rest with
      ⟨text, heq⟩ | ⟨t, heq | ⟨message, heq⟩⟩
    · rw [heq, ih]
      exact w.mail_log rfl
    · rw [heq, ih, mail_hand]
    · rw [heq, mail_note, mail_hand]

theorem mail_enqueue (w : World ρ) (j : Job ρ) : (w.enqueue j).mail = w.mail := rfl

theorem mail_wakeWatchers (w : World ρ) (id : Nat) : (w.wakeWatchers id).mail = w.mail := rfl

theorem mail_fireTimers (w : World ρ) (due : Nat) : (w.fireTimers due).mail = w.mail := rfl

theorem mail_release (w : World ρ) (key : String) : (w.release key).mail = w.mail := by
  have hsent : ∀ r : Request ρ, r.grant.sent = r.sent := by
    intro r
    unfold Request.grant
    split
    next stub h => simp only [Request.sent, h]
    next => rfl
  unfold release
  split
  next => rfl
  next waiter _ =>
    have hgrant : ∀ f : Flow ρ, ({ f with
        requests := f.requests.modify waiter.position Request.grant } : Flow ρ).sent = f.sent := by
      intro f
      unfold Flow.sent
      dsimp only
      rw [List.flatMap_def, List.flatMap_def, map_modify_eq hsent]
    dsimp only
    split
    next => exact (mail_wake _ _).trans (mail_modifyFlow _ _ hgrant)
    next => exact (mail_enqueue _ _).trans (mail_modifyFlow _ _ hgrant)

theorem mail_dropFlow (w : World ρ) (id : Nat) : (w.dropFlow id).mail = w.mail := by
  unfold dropFlow
  split
  next => rfl
  next f hf =>
    have hdropped : (w.modifyFlow id fun flow => { flow with mode := .dropped }).mail = w.mail :=
      w.mail_modifyFlow id fun _ => rfl
    dsimp only
    split
    next => exact hdropped
    next =>
      split
      next => exact (mail_release _ _).trans hdropped
      next => exact hdropped

theorem mail_advance (w : World ρ) (id fuel : Nat) : (w.advance id fuel).mail = w.mail := by
  induction fuel generalizing w with
  | zero => rfl
  | succ fuel ih =>
    unfold advance
    split
    next => rfl
    next f _ =>
      dsimp only
      split
      next => exact w.mail_signal id .polled
      next => rw [ih, mail_perform, mail_signal]

/-! A request that comes to an end or has to wait: all that matters is that it has been sent. -/

theorem mail_setPhase (w : World ρ) (id position : Nat) {phase : Phase ρ}
    (hp : phase.progress ≠ .spawned) :
    (w.setPhase id position phase).mail = (w.setPhase id position .over).mail := by
  have hsent : ∀ r : Request ρ,
      ({ r with phase } : Request ρ).sent = ({ r with phase := .over } : Request ρ).sent := by
    intro r
    cases phase with
    | fresh => exact absurd rfl hp
    | _ => rfl
  unfold mail setPhase modifyFlow
  refine congrArg (Prod.mk w.receipts) (map_modify_congr (fun f => ?_) w.flows id)
  unfold Flow.sent
  dsimp only
  rw [List.flatMap_def, List.flatMap_def, map_modify_congr hsent]

theorem mail_resolveRequest (w : World ρ) (id position : Nat) (r : Resolution ρ) :
    (w.resolveRequest id position r).mail = (w.setPhase id position .over).mail := by
  unfold resolveRequest
  dsimp only
  split
  next => rw [mail_wake, mail_note]
  next => rw [mail_note]

theorem mail_finishRequest (w : World ρ) (id position : Nat) (key : String) (stub : Stub ρ) :
    (w.finishRequest id position key stub).mail = (w.setPhase id position .over).mail := by
  unfold finishRequest
  split
  next message _ => exact w.mail_resolveRequest id position _
  next => exact (mail_resolveRequest _ _ _ _).trans (mail_log (w.setPhase id position .over) rfl)

theorem mail_enterGate (w : World ρ) (id position : Nat) (key : String) (stub : Stub ρ) :
    (w.enterGate id position key stub).mail = (w.setPhase id position .over).mail := by
  unfold enterGate
  split
  next => exact w.mail_finishRequest id position key stub
  next =>
    split
    next => exact mail_finishRequest _ id position key stub
    next => exact mail_setPhase _ id position nofun

/-- A request that was sent is not sent again. -/
theorem mail_setPhase_of_sent (w : World ρ) {id position : Nat} {f : Flow ρ} {r : Request ρ}
    (hf : w.flows[id]? = some f) (hr : f.requests[position]? = some r)
    (hs : r.phase.progress ≠ .spawned) : (w.setPhase id position .over).mail = w.mail := by
  have hsent : ({ r with phase := .over } : Request ρ).sent = r.sent := by
    unfold Request.sent
    cases hp : r.phase with
    | fresh =>
      rw [hp] at hs
      exact absurd rfl hs
    | _ => rfl
  unfold mail setPhase modifyFlow
  refine congrArg (Prod.mk w.receipts) ?_
  rw [modify_eq_set hf, List.map_set]
  refine set_eq_self ?_
  rw [List.getElem?_map, hf, Option.map_some]
  unfold Flow.sent
  rw [modify_eq_set hr, List.flatMap_def, List.flatMap_def, List.map_set, hsent, set_eq_self]
  rw [List.getElem?_map, hr, Option.map_some]

namespace Balanced

variable {w : World ρ} {id position : Nat} {f : Flow ρ} {r : Request ρ}

/-- A request is sent as its statement is received. -/
theorem receive (h : w.Balanced) (hf : w.flows[id]? = some f)
    (hr : f.requests[position]? = some r) (hp : r.phase = .fresh) :
    ((w.log (.received r.statement)).setPhase id position .over).Balanced := by
  have hfresh : (f.requests.map Request.sent)[position]? = some [] := by
    rw [List.getElem?_map, hr, Option.map_some, Request.sent, hp]
  have hflow : ({ f with requests := f.requests.set position { r with phase := .over } } :
      Flow ρ).sent.Perm (r.statement :: f.sent) := by
    unfold Flow.sent
    dsimp only
    rw [List.flatMap_def, List.flatMap_def, List.map_set]
    exact flatten_set_perm hfresh (.refl _)
  have hflows : (w.flows.map Flow.sent)[id]? = some f.sent := by
    rw [List.getElem?_map, hf, Option.map_some]
  have hreceipts : (w.log (.received r.statement)).receipts = w.receipts ++ [r.statement] :=
    List.filterMap_append
  change (w.log (.received r.statement)).receipts.Perm
    ((w.flows.modify id _).map Flow.sent).flatten
  rw [hreceipts, modify_eq_set hf, modify_eq_set hr, List.map_set]
  calc
    (w.receipts ++ [r.statement]).Perm (r.statement :: w.receipts) :=
      List.perm_append_singleton _ _
    List.Perm _ (r.statement :: (w.flows.map Flow.sent).flatten) := List.Perm.cons _ h
    List.Perm _ _ := (flatten_set_perm hflows hflow).symm

theorem pollRequest (h : w.Balanced) (id position : Nat) :
    (w.pollRequest id position).Balanced := by
  unfold World.pollRequest
  split
  next => exact h
  next r hr =>
    obtain ⟨f, hf, hr⟩ := Option.bind_eq_some_iff.mp hr
    have hover : r.phase.progress ≠ .spawned → (w.setPhase id position .over).Balanced :=
      fun hs => h.of_mail (w.mail_setPhase_of_sent hf hr hs)
    dsimp only
    split
    next hphase =>
      have hreceived : w.Balanced → (({ w with received := r.statement.key :: w.received }.log
          (.received r.statement)).setPhase id position .over).Balanced := fun h =>
        receive (w := { w with received := r.statement.key :: w.received }) h hf hr hphase
      split
      next => exact (hreceived h).of_mail (mail_enterGate _ _ _ _ _)
      next =>
        split
        next => exact (hreceived h).of_mail (mail_resolveRequest _ _ _ _)
        next =>
          split
          next => exact (hreceived h).of_mail (mail_enterGate _ _ _ _ _)
          next => exact (hreceived h).of_mail (mail_setPhase _ _ _ nofun)
    next hphase =>
      have hsent := hover (by rw [hphase]; nofun)
      split
      next => exact hsent.of_mail (mail_resolveRequest _ _ _ _)
      next =>
        split
        next => exact h
        next => exact hsent.of_mail (mail_enterGate _ _ _ _ _)
    next hphase => exact (hover (by rw [hphase]; nofun)).of_mail (mail_finishRequest _ _ _ _ _)
    next => exact h
    next => exact h

theorem pollFlow (h : w.Balanced) (id : Nat) : (w.pollFlow id).Balanced := by
  unfold World.pollFlow
  split
  next => exact h
  next f _ =>
    split
    next => exact h
    next =>
      have hfirst : (if f.execution.awaitsRequest then w.pollRequest id 0 else w).Balanced := by
        split
        next => exact h.pollRequest id 0
        next => exact h
      dsimp only
      generalize (if f.execution.awaitsRequest then w.pollRequest id 0 else w) = first at hfirst ⊢
      have hadvanced : (first.advance id (2 * f.layers + 4)).Balanced :=
        hfirst.of_mail (mail_advance _ _ _)
      split
      next => exact hadvanced.of_mail (mail_wakeWatchers _ id)
      next => exact hadvanced

theorem runJob (h : w.Balanced) (j : Job ρ) : (w.runJob j).Balanced := by
  cases j with
  | flow id => exact h.pollFlow id
  | request id position => exact h.pollRequest id position
  | work task => exact h.of_mail (mail_runTask w task)
  | watch watcher =>
    unfold World.runJob
    dsimp only
    split
    next => exact h.of_mail (mail_hand w _ watcher.executor)
    next => exact h

theorem runUntil (h : w.Balanced) (limit : Nat) (stop : World ρ → Bool) (fuel : Nat) :
    (w.runUntil limit stop fuel).Balanced := by
  induction fuel generalizing w with
  | zero => exact h
  | succ fuel ih =>
    unfold World.runUntil
    split
    next => exact h
    next =>
      split
      next j rest _ =>
        have hrest : ({ w with queue := rest } : World ρ).Balanced := h
        exact ih (hrest.runJob j)
      next =>
        split
        next due _ =>
          split
          next => exact ih (h.of_mail (w.mail_fireTimers due))
          next => exact h.of_mail (w.mail_fireTimers limit)
        next => exact h.of_mail (w.mail_fireTimers limit)

theorem waitFor (h : w.Balanced) (id limit : Nat) : (w.waitFor id limit).Balanced := by
  unfold World.waitFor
  split
  next => exact h
  next => exact h.runUntil _ _ _

theorem driveFlow (h : w.Balanced) (id : Nat) : (w.driveFlow id).Balanced := by
  have hdriven : ({ w with driven := some id } : World ρ).Balanced := h
  have hpolled := hdriven.pollFlow id
  unfold World.driveFlow
  dsimp only
  generalize World.pollFlow { w with driven := some id } id = polled at hpolled ⊢
  have hwaited : (if polled.down then polled
      else (polled.waitFor id (polled.now + patience)).pollFlow id).Balanced := by
    split
    next => exact hpolled
    next => exact (hpolled.waitFor id _).pollFlow id
  exact hwaited

end Balanced
end World

/-! Calls of a program, as long as its runtime is up. -/

namespace Scene

variable {s : Scene ρ} {path : Path}

/-- A new execution has sent nothing. -/
theorem balanced_launch (h : s.world.Balanced) (hup : s.world.down = false)
    (o : Operation String ρ) (path : Path) (name : String) :
    (s.launch o path name).1.world.Balanced := by
  unfold launch
  cases hs : o.submit path s.state with
  | mk submitted rest =>
    cases submitted with
    | error error => exact h.of_mail (World.mail_perform _ _ _ _ _)
    | ok sub =>
      simp only [hup, Bool.false_eq_true, if_false]
      refine World.Balanced.of_mail ?_ (World.mail_perform _ _ _ _ _)
      have hfresh : (sub.statements.map ({ statement := · } : Statement → Request ρ)).flatMap
          Request.sent = [] := by
        rw [List.flatMap_eq_nil_iff]
        intro r hr
        obtain ⟨statement, -, rfl⟩ := List.mem_map.mp hr
        rfl
      change s.world.receipts.Perm ((s.world.flows ++ [_]).map Flow.sent).flatten
      rw [List.map_append, List.flatten_append, List.map_singleton, Flow.sent, hfresh]
      exact (List.append_nil _).symm ▸ h

theorem balanced_spawn (h : s.world.Balanced) (id : Nat) : (s.spawn id).world.Balanced := by
  unfold spawn
  split
  next =>
    refine h.of_mail (s.world.mail_modifyFlow id fun f => ?_)
    unfold Flow.cancelTask
    split <;> rfl
  next => exact h.of_mail (s.world.mail_wake id)

theorem balanced_drive (h : s.world.Balanced) (id : Nat) : (s.drive id).1.world.Balanced := by
  unfold drive
  dsimp only
  split
  next => exact h.driveFlow id
  next => exact h.driveFlow id
  next => exact (h.driveFlow id).of_mail (World.mail_dropFlow _ id)

theorem balanced_awaitPending (h : s.world.Balanced) (handle : Pending Nat ρ)
    (limit : Option Duration) : (s.awaitPending handle limit).1.world.Balanced := by
  obtain ⟨world, hworld, heq⟩ := s.awaitPending_eq handle limit
  rw [heq]
  rcases hworld with rfl | ⟨task, time, rfl⟩
  · exact h
  · exact h.waitFor task _

theorem balanced_submit (h : s.world.Balanced) (hup : s.world.down = false)
    (o : Operation String ρ) : (s.submit o).1.world.Balanced := by
  have hlaunched := balanced_launch h hup o .caller ""
  unfold submit
  split
  next launched error heq => exact (congrArg Prod.fst heq) ▸ hlaunched
  next launched id heq =>
    rw [heq] at hlaunched
    split
    next => exact hlaunched
    next => exact balanced_spawn hlaunched id

theorem balanced_execute (h : s.world.Balanced) (hup : s.world.down = false)
    (o : Operation String ρ) : (s.execute o).1.world.Balanced := by
  have hlaunched := balanced_launch h hup o .caller ""
  unfold execute
  split
  next launched error heq => exact (congrArg Prod.fst heq) ▸ hlaunched
  next launched id heq =>
    rw [heq] at hlaunched
    exact balanced_drive hlaunched id

theorem balanced_executeDetached (h : s.world.Balanced) (hup : s.world.down = false)
    (o : Operation String ρ) (limit : Option Duration) :
    (s.executeDetached o limit).1.world.Balanced := by
  have hsubmitted := balanced_submit h hup o
  unfold executeDetached
  split
  next submitted error heq => exact (congrArg Prod.fst heq) ▸ hsubmitted
  next submitted handle heq =>
    rw [heq] at hsubmitted
    have hawaited : (submitted.awaitInContext handle limit).1.world.Balanced := by
      unfold awaitInContext
      split
      next => exact hsubmitted
      next => exact balanced_awaitPending hsubmitted handle limit
    exact hawaited

theorem balanced_callback (h : s.world.Balanced) (hup : s.world.down = false)
    (o : Operation String ρ) (name : String) : (s.callback o name).1.world.Balanced := by
  have hlaunched := balanced_launch h hup o .callback name
  unfold callback
  split
  next launched error heq => exact (congrArg Prod.fst heq) ▸ hlaunched
  next launched id heq =>
    rw [heq] at hlaunched
    exact balanced_spawn hlaunched id

end Scene
end CqlOperations.Simulation
