import CqlOperations.Proofs.Course.Settling

/-! What the session receives: each request sends its own statement at most once, whatever the
others do, and a request that is over has sent it unless it was cancelled. -/
namespace CqlOperations

variable {ρ : Type}

namespace Course

/-- The statements that the session received from the request at `position`. -/
def received (c : Course ρ) (position : Nat) : List Statement :=
  (c.sent.filter (·.1 = position)).map (·.2)

/-- Nothing happened to the requests. -/
structure SameRequests (c after : Course ρ) : Prop where
  statements : after.statements = c.statements
  requests : after.requests = c.requests
  sent : after.sent = c.sent

namespace SameRequests

theorem refl (c : Course ρ) : SameRequests c c := ⟨rfl, rfl, rfl⟩

theorem trans {c middle after : Course ρ} (h : SameRequests c middle)
    (h' : SameRequests middle after) : SameRequests c after :=
  ⟨h'.1.trans h.1, h'.2.trans h.2, h'.3.trans h.3⟩

theorem received {c after : Course ρ} (h : SameRequests c after) (position : Nat) :
    after.received position = c.received position := by
  unfold Course.received
  rw [h.sent]

end SameRequests

theorem sameRequests_runTask (c : Course ρ) (task : Action ρ) :
    SameRequests c (c.runTask task).1 := by
  unfold runTask
  split
  next => split <;> exact ⟨rfl, rfl, rfl⟩
  next => exact ⟨rfl, rfl, rfl⟩

theorem sameRequests_hand (env : Environment ρ) (c : Course ρ) (task : Action ρ) :
    SameRequests c (c.hand env task).1 := by
  unfold hand
  split
  next =>
    have h := sameRequests_runTask { c with handed := c.handed ++ [task] } task
    exact ⟨h.statements, h.requests, h.sent⟩
  next => exact ⟨rfl, rfl, rfl⟩
  next => cases task <;> exact ⟨rfl, rfl, rfl⟩

theorem sameRequests_perform (env : Environment ρ) (c : Course ρ) (tasks : List (Action ρ)) :
    SameRequests c (c.perform env tasks) := by
  induction tasks generalizing c with
  | nil => exact .refl c
  | cons task rest ih =>
    have hh := sameRequests_hand env c task
    rw [perform]
    split
    next given heq =>
      rw [heq] at hh
      exact hh.trans (ih given)
    next given message heq =>
      rw [heq] at hh
      exact hh.trans ⟨rfl, rfl, rfl⟩

/-- Of the requests a move sends one, ends one, or leaves all as they are. -/
theorem step_requests (env : Environment ρ) (c : Course ρ) (move : Move) :
    SameRequests c (c.step env move) ∨ (∃ i, SameRequests (c.send i) (c.step env move)) ∨
      ∃ i p, c.requests[i]? = some p ∧ (p = .sent ∨ p = .spawned ∧ env.outcome i = .cancelled) ∧
        SameRequests { c with requests := c.requests.set i .ended } (c.step env move) := by
  cases move with
  | poll =>
    cases hw : c.execution.awaitsRequest with
    | true => exact .inr (.inl ⟨0, by rw [step, poll_of_awaitsRequest env hw]; exact .refl _⟩)
    | false =>
      left
      rw [step, poll_of_not_awaitsRequest env hw]
      have h := sameRequests_perform env { c with execution := c.execution.poll.1 }
        c.execution.poll.2
      exact ⟨h.statements, h.requests, h.sent⟩
  | send position =>
    simp only [step]
    split
    next => exact .inl (.refl c)
    next => exact .inr (.inl ⟨position, .refl _⟩)
  | resolve position =>
    simp only [step, resolve]
    split
    next hp => exact .inr (.inr ⟨position, _, hp, .inl rfl, ⟨rfl, rfl, rfl⟩⟩)
    next hp ho => exact .inr (.inr ⟨position, _, hp, .inr ⟨rfl, ho⟩, ⟨rfl, rfl, rfl⟩⟩)
    next => exact .inl (.refl c)
  | run index =>
    simp only [step]
    split
    next task hk =>
      have h := sameRequests_runTask { c with kept := c.kept.eraseIdx index } task
      exact .inl ⟨h.statements, h.requests, h.sent⟩
    next => exact .inl (.refl c)

end Course

/-- What the session may have received of a request, given where it stands. -/
def Progress.Allows (r : Resolution ρ) (statement : Statement) (received : List Statement) :
    Progress → Prop
  | .spawned => received = []
  | .sent => received = [statement]
  | .ended => received = [statement] ∨ r = .cancelled ∧ received = []

namespace Course

/-- The requests of the statements in `all` are in order with what the session received. -/
structure Logged (env : Environment ρ) (all : List Statement) (c : Course ρ) : Prop where
  statements : c.statements = all
  length : c.requests.length = all.length
  received : ∀ (i : Nat) (statement : Statement) (p : Progress),
    all[i]? = some statement → c.requests[i]? = some p →
      p.Allows (env.outcome i) statement (c.received i)
  others : ∀ i, all.length ≤ i → c.received i = []

namespace Logged

variable {env : Environment ρ} {all : List Statement} {c : Course ρ}

theorem of_same {after : Course ρ} (h : c.Logged env all) (hs : SameRequests c after) :
    after.Logged env all where
  statements := hs.statements.trans h.statements
  length := by rw [hs.requests]; exact h.length
  received i statement p hst hp := by
    rw [hs.received]
    exact h.received i statement p hst (hs.requests ▸ hp)
  others i hi := by rw [hs.received]; exact h.others i hi

theorem send (h : c.Logged env all) (position : Nat) :
    (c.send position).Logged env all := by
  unfold Course.send
  split
  next statement hp hst =>
    have hl : position < c.requests.length := (List.getElem?_eq_some_iff.mp hp).1
    have hst' : all[position]? = some statement := h.statements ▸ hst
    have hr : ∀ i, Course.received { c with
        requests := c.requests.set position .sent
        sent := c.sent ++ [(position, statement)] } i =
          c.received i ++ if position = i then [statement] else [] := by
      intro i
      simp only [Course.received, List.filter_append, List.map_append]
      by_cases hi : position = i <;> simp [hi]
    refine ⟨h.statements, by simpa using h.length, ?_, ?_⟩
    · intro i other p ho hi
      rw [hr]
      by_cases heq : position = i
      · subst heq
        obtain rfl : statement = other := Option.some.inj (hst'.symm.trans ho)
        obtain rfl : p = .sent := by simpa [hl] using hi.symm
        have hnone := h.received position statement .spawned hst' hp
        change c.received position = [] at hnone
        rw [hnone, if_pos rfl]
        rfl
      · rw [if_neg heq, List.append_nil]
        exact h.received i other p ho (by simpa [List.getElem?_set_ne heq] using hi)
    · intro i hi
      have hne : position ≠ i := by have := h.length; omega
      rw [hr, if_neg hne, List.append_nil]
      exact h.others i hi
  next => exact h

theorem finish (h : c.Logged env all) {position : Nat} {p : Progress}
    (hp : c.requests[position]? = some p)
    (ho : p = .sent ∨ p = .spawned ∧ env.outcome position = .cancelled) :
    ({ c with requests := c.requests.set position .ended } : Course ρ).Logged env all where
  statements := h.statements
  length := by simpa using h.length
  received i statement q hst hi := by
    have hl : position < c.requests.length := (List.getElem?_eq_some_iff.mp hp).1
    by_cases heq : position = i
    · subst heq
      obtain rfl : q = .ended := by simpa [hl] using hi.symm
      have hr := h.received position statement p hst hp
      rcases ho with rfl | ⟨rfl, hc⟩
      · exact .inl hr
      · exact .inr ⟨hc, hr⟩
    · exact h.received i statement q hst (by simpa [List.getElem?_set_ne heq] using hi)
  others := h.others

theorem step (h : c.Logged env all) (move : Move) :
    (c.step env move).Logged env all := by
  rcases step_requests env c move with hs | ⟨i, hs⟩ | ⟨i, p, hp, ho, hs⟩
  · exact h.of_same hs
  · exact (h.send i).of_same hs
  · exact (h.finish hp ho).of_same hs

theorem run (h : c.Logged env all) (moves : List Move) :
    (c.run env moves).Logged env all :=
  run_induction (fun _ move hc => hc.step move) h moves

theorem start (env : Environment ρ) (s : Submission ρ) :
    (Course.start s).Logged env s.statements where
  statements := rfl
  length := by simp [Course.start]
  received i statement p hst hp := by
    simp only [Course.start, List.getElem?_map, hst, Option.map_some, Option.some.injEq] at hp
    subst hp
    rfl
  others _ _ := rfl

end Logged

end Course
end CqlOperations
