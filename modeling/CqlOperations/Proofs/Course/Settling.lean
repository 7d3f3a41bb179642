import CqlOperations.Proofs.Course
import CqlOperations.Proofs.Execution

/-! Every course settles: a move that changes anything brings it closer to its end. -/
namespace CqlOperations

variable {ρ : Type}

def Progress.weight : Progress → Nat
  | .spawned => 2
  | .sent => 1
  | .ended => 0

def Progress.weights : List Progress → Nat
  | [] => 0
  | p :: rest => p.weight + weights rest

namespace Course

/-- What is left apart from the tasks that the executor keeps. -/
def weight (c : Course ρ) : Nat :=
  c.execution.stage.weight + Progress.weights c.requests

theorem tell_weight_le (c : Course ρ) (s : Signal ρ) : (c.tell s).weight ≤ c.weight :=
  Nat.add_le_add_right (c.execution.handle_weight_le s) _

theorem runTask_weight_le (c : Course ρ) (task : Action ρ) :
    (c.runTask task).1.weight ≤ c.weight := by
  unfold runTask
  split
  next processor input =>
    split
    next r _ => exact tell_weight_le { c with ran := c.ran ++ [.process processor input] } _
    next message _ => exact tell_weight_le { c with ran := c.ran ++ [.process processor input] } _
  next => exact Nat.le_refl _

theorem runTask_kept (c : Course ρ) (task : Action ρ) : (c.runTask task).1.kept = c.kept := by
  unfold runTask
  split
  next => split <;> rfl
  next => rfl

theorem hand_weight_le (env : Environment ρ) (c : Course ρ) (task : Action ρ) :
    (c.hand env task).1.weight ≤ c.weight := by
  unfold hand
  split
  next => exact runTask_weight_le { c with handed := c.handed ++ [task] } task
  next => exact Nat.le_refl _
  next =>
    cases task with
    | process processor input =>
      exact tell_weight_le { c with handed := c.handed ++ [.process processor input] } _
    | report r => exact Nat.le_refl _
    | deliver output => exact Nat.le_refl _
    | observe text => exact Nat.le_refl _

theorem perform_weight_le (env : Environment ρ) (c : Course ρ) (tasks : List (Action ρ)) :
    (c.perform env tasks).weight ≤ c.weight := by
  induction tasks generalizing c with
  | nil => exact Nat.le_refl _
  | cons task rest ih =>
    have hh := hand_weight_le env c task
    rw [perform]
    split
    next given heq =>
      rw [heq] at hh
      exact Nat.le_trans (ih given) hh
    next given message heq =>
      rw [heq] at hh
      exact Nat.le_trans (tell_weight_le given _) hh

theorem weights_set_lt {requests : List Progress} {position : Nat} {before : Progress}
    (after : Progress) (hp : requests[position]? = some before)
    (hw : after.weight < before.weight) :
    Progress.weights (requests.set position after) < Progress.weights requests := by
  induction requests generalizing position with
  | nil => simp at hp
  | cons r rest ih =>
    cases position with
    | zero =>
      simp only [List.getElem?_cons_zero, Option.some.injEq] at hp
      subst hp
      exact Nat.add_lt_add_right hw _
    | succ position => exact Nat.add_lt_add_left (ih (by simpa using hp)) _

theorem send_eq_or_lt (c : Course ρ) (position : Nat) :
    c.send position = c ∨ (c.send position).weight < c.weight := by
  unfold send
  split
  next statement hp _ =>
    exact Or.inr (Nat.add_lt_add_left (weights_set_lt .sent hp (by decide)) _)
  next => exact Or.inl rfl

theorem finish_weight_lt {c : Course ρ} {position : Nat} {before : Progress}
    (hp : c.requests[position]? = some before) (hb : 0 < before.weight) (r : Resolution ρ) :
    (c.finish position r).weight < c.weight :=
  Nat.lt_of_le_of_lt (tell_weight_le { c with requests := c.requests.set position .ended } _)
    (Nat.add_lt_add_left (weights_set_lt .ended hp hb) _)

theorem resolve_eq_or_lt (env : Environment ρ) (c : Course ρ) (position : Nat) :
    c.resolve env position = c ∨ (c.resolve env position).weight < c.weight := by
  unfold resolve
  split
  next hp => exact Or.inr (finish_weight_lt hp (by decide) _)
  next hp _ => exact Or.inr (finish_weight_lt hp (by decide) _)
  next => exact Or.inl rfl

/-- A single statement is sent by a poll that gets no further. -/
theorem poll_of_awaitsRequest (env : Environment ρ) {c : Course ρ}
    (h : c.execution.awaitsRequest = true) : c.poll env = c.send 0 := by
  have hx : (c.send 0).execution = c.execution := by
    unfold send
    split <;> rfl
  have hp := Execution.poll_of_awaitsRequest (hx ▸ h)
  unfold poll
  rw [if_pos h]
  simp only [Execution.handle, hp]
  rfl

theorem poll_of_not_awaitsRequest (env : Environment ρ) {c : Course ρ}
    (h : c.execution.awaitsRequest = false) :
    c.poll env = { c with execution := c.execution.poll.1 }.perform env c.execution.poll.2 := by
  unfold poll
  rw [h]
  rfl

theorem poll_eq_or_lt (env : Environment ρ) (c : Course ρ) :
    c.poll env = c ∨ (c.poll env).weight < c.weight := by
  cases h : c.execution.awaitsRequest with
  | true =>
    rw [poll_of_awaitsRequest env h]
    exact send_eq_or_lt c 0
  | false =>
    rw [poll_of_not_awaitsRequest env h]
    rcases c.execution.poll_eq_or_lt with hp | hp
    · left
      rw [hp]
      rfl
    · right
      have hw := perform_weight_le env { c with execution := c.execution.poll.1 }
        c.execution.poll.2
      exact Nat.lt_of_le_of_lt hw (Nat.add_lt_add_right hp _)

/-- The measure that goes down with each move that changes anything. -/
theorem step_eq_or_lt (env : Environment ρ) (c : Course ρ) (move : Move) :
    c.step env move = c ∨
      Prod.Lex (· < ·) (· < ·) ((c.step env move).weight, (c.step env move).kept.length)
        (c.weight, c.kept.length) := by
  cases move with
  | poll => exact (poll_eq_or_lt env c).imp_right (Prod.Lex.left _ _)
  | send position =>
    simp only [step]
    split
    next => exact Or.inl rfl
    next => exact (send_eq_or_lt c position).imp_right (Prod.Lex.left _ _)
  | resolve position => exact (resolve_eq_or_lt env c position).imp_right (Prod.Lex.left _ _)
  | run index =>
    simp only [step]
    split
    next task hk =>
      right
      have hw := runTask_weight_le { c with kept := c.kept.eraseIdx index } task
      rw [runTask_kept]
      obtain ⟨hi, -⟩ := List.getElem?_eq_some_iff.mp hk
      have hl := List.length_eraseIdx_of_lt hi
      rcases Nat.lt_or_eq_of_le hw with hlt | heq
      · exact Prod.Lex.left _ _ hlt
      · rw [heq]
        exact Prod.Lex.right _ (by simp only [hl]; omega)
    next => exact Or.inl rfl

@[simp] theorem run_nil (env : Environment ρ) (c : Course ρ) : c.run env [] = c := rfl

@[simp] theorem run_cons (env : Environment ρ) (c : Course ρ) (move : Move)
    (moves : List Move) : c.run env (move :: moves) = (c.step env move).run env moves := rfl

theorem run_append (env : Environment ρ) (c : Course ρ) (first rest : List Move) :
    c.run env (first ++ rest) = (c.run env first).run env rest :=
  List.foldl_append

/-- What each move preserves holds after any moves. -/
theorem run_induction {env : Environment ρ} {P : Course ρ → Prop}
    (hstep : ∀ c move, P c → P (c.step env move)) {c : Course ρ} (hc : P c)
    (moves : List Move) : P (c.run env moves) := by
  induction moves generalizing c with
  | nil => exact hc
  | cons move rest ih => exact ih (hstep c move hc)

/-! What each signal preserves of an execution each move preserves. -/

section

variable {P : Execution ρ → Prop} (hP : ∀ x s, P x → P (Execution.handle x s).1)

include hP

theorem runTask_execution {c : Course ρ} (h : P c.execution) (task : Action ρ) :
    P (c.runTask task).1.execution := by
  unfold runTask
  split
  next => split <;> exact hP _ _ h
  next => exact h

theorem hand_execution (env : Environment ρ) {c : Course ρ} (h : P c.execution)
    (task : Action ρ) : P (c.hand env task).1.execution := by
  unfold hand
  split
  next => exact runTask_execution hP (c := { c with handed := c.handed ++ [task] }) h task
  next => exact h
  next =>
    cases task with
    | process processor input => exact hP _ _ h
    | report r => exact h
    | deliver output => exact h
    | observe text => exact h

theorem perform_execution (env : Environment ρ) {c : Course ρ} (h : P c.execution)
    (tasks : List (Action ρ)) : P (c.perform env tasks).execution := by
  induction tasks generalizing c with
  | nil => exact h
  | cons task rest ih =>
    have hh := hand_execution hP env h task
    rw [perform]
    split
    next given heq =>
      rw [heq] at hh
      exact ih hh
    next given message heq =>
      rw [heq] at hh
      exact hP _ _ hh

theorem step_execution (env : Environment ρ) {c : Course ρ} (h : P c.execution) (move : Move) :
    P (c.step env move).execution := by
  have hsend : ∀ position, P (c.send position).execution := by
    intro position
    unfold send
    split <;> exact h
  cases move with
  | poll =>
    rw [step]
    cases hw : c.execution.awaitsRequest with
    | true =>
      rw [poll_of_awaitsRequest env hw]
      exact hsend 0
    | false =>
      rw [poll_of_not_awaitsRequest env hw]
      exact perform_execution hP env (c := { c with execution := c.execution.poll.1 })
        (hP c.execution .polled h) _
  | send position =>
    rw [step]
    split
    next => exact h
    next => exact hsend position
  | resolve position =>
    rw [step]
    unfold resolve
    split
    next => exact hP _ _ h
    next => exact hP _ _ h
    next => exact h
  | run index =>
    rw [step]
    split
    next task _ =>
      exact runTask_execution hP (c := { c with kept := c.kept.eraseIdx index }) h task
    next => exact h

theorem run_execution (env : Environment ρ) {c : Course ρ} (h : P c.execution)
    (moves : List Move) : P (c.run env moves).execution :=
  run_induction (P := fun c => P c.execution)
    (fun _ move hc => step_execution hP env hc move) h moves

end

/-- From anywhere some moves lead to where nothing is left to happen. -/
theorem exists_settled (env : Environment ρ) (c : Course ρ) :
    ∃ moves, (c.run env moves).Settled env := by
  by_cases h : c.Settled env
  · exact ⟨[], h⟩
  · obtain ⟨move, hm⟩ := Classical.not_forall.mp h
    have hlt := (step_eq_or_lt env c move).resolve_left hm
    obtain ⟨rest, hr⟩ := exists_settled env (c.step env move)
    exact ⟨move :: rest, hr⟩
termination_by (c.weight, c.kept.length)
decreasing_by exact hlt

private theorem lex_trans {a b c : Nat × Nat} (h : Prod.Lex (· < ·) (· < ·) a b)
    (h' : Prod.Lex (· < ·) (· < ·) b c) : Prod.Lex (· < ·) (· < ·) a c := by
  rw [Prod.lex_def] at h h' ⊢
  omega

/-- What is left never grows, and is the same only while nothing changes. -/
theorem run_eq_or_lt (env : Environment ρ) (c : Course ρ) (moves : List Move) :
    c.run env moves = c ∨
      Prod.Lex (· < ·) (· < ·) ((c.run env moves).weight, (c.run env moves).kept.length)
        (c.weight, c.kept.length) := by
  induction moves generalizing c with
  | nil => exact Or.inl rfl
  | cons move rest ih =>
    rw [run_cons]
    rcases step_eq_or_lt env c move with hs | hs
    · rw [hs]
      exact ih c
    · rcases ih (c.step env move) with hr | hr
      · rw [hr]
        exact Or.inr hs
      · exact Or.inr (lex_trans hr hs)

/-- The first moves of a schedule. -/
def upTo (env : Environment ρ) (c : Course ρ) (schedule : Nat → Move) (n : Nat) : Course ρ :=
  c.run env ((List.range n).map schedule)

/-- A move that would change something from some time on is made at last. -/
def Fair (env : Environment ρ) (c : Course ρ) (schedule : Nat → Move) : Prop :=
  ∀ n move, (∀ k, n ≤ k → (c.upTo env schedule k).step env move ≠ c.upTo env schedule k) →
    ∃ k, n ≤ k ∧ schedule k = move

theorem upTo_succ (env : Environment ρ) (c : Course ρ) (schedule : Nat → Move) (n : Nat) :
    c.upTo env schedule (n + 1) = (c.upTo env schedule n).step env (schedule n) := by
  simp only [upTo, List.range_succ, List.map_append, run_append, List.map_cons, List.map_nil,
    run_cons, run_nil]

theorem upTo_add (env : Environment ρ) (c : Course ρ) (schedule : Nat → Move) (n k : Nat) :
    (c.upTo env schedule n).upTo env (fun i => schedule (n + i)) k =
      c.upTo env schedule (n + k) := by
  induction k with
  | zero => rfl
  | succ k ih => rw [upTo_succ, ih, ← Nat.add_assoc, upTo_succ]

theorem Fair.shift {env : Environment ρ} {c : Course ρ} {schedule : Nat → Move}
    (h : c.Fair env schedule) (n : Nat) :
    (c.upTo env schedule n).Fair env fun i => schedule (n + i) := by
  intro m move hm
  obtain ⟨k, hk, he⟩ := h (n + m) move fun k hk => by
    have := hm (k - n) (by omega)
    rwa [upTo_add, Nat.add_sub_cancel' (by omega)] at this
  refine ⟨k - n, by omega, ?_⟩
  change schedule (n + (k - n)) = move
  rw [Nat.add_sub_cancel' (by omega), he]

/-- Every fair schedule comes to where nothing is left to happen. -/
theorem Fair.exists_settled {env : Environment ρ} {c : Course ρ} {schedule : Nat → Move}
    (h : c.Fair env schedule) : ∃ n, (c.upTo env schedule n).Settled env := by
  by_cases hs : c.Settled env
  · exact ⟨0, hs⟩
  · obtain ⟨move, hm⟩ := Classical.not_forall.mp hs
    obtain ⟨n, hn⟩ : ∃ n, c.upTo env schedule n ≠ c := by
      refine Classical.byContradiction fun hnone => ?_
      have hall : ∀ k, c.upTo env schedule k = c := fun k =>
        Classical.not_not.mp (not_exists.mp hnone k)
      obtain ⟨k, -, hk⟩ := h 0 move fun k _ => by rwa [hall k]
      have hnext := upTo_succ env c schedule k
      rw [hall (k + 1), hall k, hk] at hnext
      exact hm hnext.symm
    have hlt := (run_eq_or_lt env c _).resolve_left hn
    obtain ⟨k, hk⟩ := (h.shift n).exists_settled
    exact ⟨n + k, upTo_add env c schedule n k ▸ hk⟩
termination_by (c.weight, c.kept.length)
decreasing_by exact hlt

end Course
end CqlOperations
