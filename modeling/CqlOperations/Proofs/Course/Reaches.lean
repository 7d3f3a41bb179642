import CqlOperations.Proofs.Course.Tally
import Mathlib.Logic.Relation

/-! Courses whose environment is only settled as they go. Each of them is the run of one environment
that is known from the start. -/
namespace CqlOperations

variable {ρ : Type}

/-- How the request of a statement may end and what the executor may do with its tasks. -/
structure Allowance (ρ : Type) where
  ends : Statement → Resolution ρ → Prop
  does : Discipline → Prop

/-- The environment of requests with these statements. What it says of any others is the end that
some statement may come to. -/
structure Environment.Within (env : Environment ρ) (a : Allowance ρ)
    (statements : List Statement) : Prop where
  ends : ∀ (i : Nat) (statement : Statement), statements[i]? = some statement →
    a.ends statement (env.outcome i)
  others : ∀ i : Nat, statements[i]? = none → ∃ statement, a.ends statement (env.outcome i)
  does : ∀ i, a.does (env.discipline i)

theorem Environment.Within.exists_ends {env : Environment ρ} {a : Allowance ρ}
    {statements : List Statement} (h : env.Within a statements) (i : Nat) :
    ∃ statement, a.ends statement (env.outcome i) := by
  cases hi : statements[i]? with
  | none => exact h.others i hi
  | some statement => exact ⟨statement, h.ends i statement hi⟩

/-- The request at this position ends like this, all others as before. -/
def Environment.ending (env : Environment ρ) (position : Nat) (r : Resolution ρ) :
    Environment ρ where
  outcome i := if i = position then r else env.outcome i
  discipline := env.discipline

theorem Environment.outcome_ending (env : Environment ρ) (position : Nat) (r : Resolution ρ) :
    (env.ending position r).outcome position = r :=
  if_pos rfl

theorem Environment.Within.ending {env : Environment ρ} {a : Allowance ρ}
    {statements : List Statement} (h : env.Within a statements) {position : Nat}
    {statement : Statement} (hs : statements[position]? = some statement) {r : Resolution ρ}
    (hr : a.ends statement r) : (env.ending position r).Within a statements where
  ends i other hi := by
    change a.ends other (if i = position then r else env.outcome i)
    split
    next heq =>
      rw [heq, hs] at hi
      cases hi
      exact hr
    next => exact h.ends i other hi
  others i hi := by
    change ∃ other, a.ends other (if i = position then r else env.outcome i)
    split
    next => exact ⟨statement, hr⟩
    next => exact h.others i hi
  does := h.does

namespace Course

theorem step_statements (env : Environment ρ) (c : Course ρ) (move : Move) :
    (c.step env move).statements = c.statements := by
  rcases step_requests env c move with hs | ⟨i, hs⟩ | ⟨i, p, -, -, hs⟩
  · exact hs.statements
  · refine hs.statements.trans ?_
    unfold send
    split <;> rfl
  · exact hs.statements

/-- One move, under any environment. -/
def Moves (a : Allowance ρ) (c d : Course ρ) : Prop :=
  ∃ env move, env.Within a c.statements ∧ c.step env move = d

/-- Any number of moves, each under an environment of its own. -/
def Reaches (a : Allowance ρ) : Course ρ → Course ρ → Prop :=
  Relation.ReflTransGen (Moves a)

theorem Reaches.move {a : Allowance ρ} {c d : Course ρ} {env : Environment ρ} (h : Reaches a c d)
    (he : env.Within a d.statements) (move : Move) : Reaches a c (d.step env move) :=
  h.tail ⟨env, move, he, rfl⟩

theorem Reaches.statements {a : Allowance ρ} {c d : Course ρ} (h : Reaches a c d) :
    d.statements = c.statements := by
  induction h with
  | refl => rfl
  | tail _ hm ih =>
    obtain ⟨env, move, -, rfl⟩ := hm
    exact (step_statements env _ move).trans ih

theorem hand_handed (env : Environment ρ) (c : Course ρ) (task : Action ρ) :
    (c.hand env task).1.handed = c.handed ++ [task] := by
  unfold hand
  split
  next => exact runTask_handed _ _
  next => rfl
  next => cases task <;> rfl

theorem perform_handed_le (env : Environment ρ) (c : Course ρ) (tasks : List (Action ρ)) :
    c.handed.length ≤ (c.perform env tasks).handed.length := by
  induction tasks generalizing c with
  | nil => exact Nat.le_refl _
  | cons task rest ih =>
    have hh := congrArg List.length (hand_handed env c task)
    rw [List.length_append] at hh
    rw [perform]
    split
    next given heq =>
      rw [heq] at hh
      exact Nat.le_trans (Nat.le.intro hh.symm) (ih given)
    next given message heq =>
      rw [heq] at hh
      exact Nat.le.intro hh.symm

/-- The executor is only asked about the tasks that it is given. -/
theorem perform_congr {env env' : Environment ρ} (c : Course ρ) (tasks : List (Action ρ))
    (h : ∀ i, c.handed.length ≤ i → i < (c.perform env tasks).handed.length →
      env.discipline i = env'.discipline i) :
    c.perform env tasks = c.perform env' tasks := by
  induction tasks generalizing c with
  | nil => rfl
  | cons task rest ih =>
    have hl : (c.hand env task).1.handed.length = c.handed.length + 1 := by
      rw [hand_handed, List.length_append]
      rfl
    have hlast : (c.hand env task).1.handed.length ≤
        (c.perform env (task :: rest)).handed.length := by
      rw [perform]
      split
      next given heq =>
        rw [heq]
        exact perform_handed_le env given rest
      next given message heq =>
        rw [heq]
        exact Nat.le_refl _
    have hhand : c.hand env task = c.hand env' task := by
      unfold hand
      rw [h c.handed.length (Nat.le_refl _) (by omega)]
    rw [perform] at h
    rw [perform, perform, ← hhand]
    split
    next given heq =>
      rw [heq] at h hl
      exact ih given fun i hi hi' => h i (by simp only at hl; omega) hi'
    next => rfl

/-- Two environments do not differ in what is still open. -/
structure Agree (c : Course ρ) (env env' : Environment ρ) : Prop where
  outcome : ∀ i, c.requests[i]? ≠ some .ended → env.outcome i = env'.outcome i
  discipline : ∀ i, c.handed.length ≤ i → env.discipline i = env'.discipline i

theorem handed_send (c : Course ρ) (position : Nat) : (c.send position).handed = c.handed := by
  unfold send
  split <;> rfl

theorem step_handed_le (env : Environment ρ) (c : Course ρ) (move : Move) :
    c.handed.length ≤ (c.step env move).handed.length := by
  cases move with
  | poll =>
    rw [step]
    cases hw : c.execution.awaitsRequest with
    | true =>
      rw [poll_of_awaitsRequest env hw]
      exact Nat.le_of_eq (congrArg List.length (handed_send c 0)).symm
    | false =>
      rw [poll_of_not_awaitsRequest env hw]
      exact perform_handed_le env { c with execution := c.execution.poll.1 } _
  | send position =>
    rw [step]
    split
    next => exact Nat.le_refl _
    next => exact Nat.le_of_eq (congrArg List.length (handed_send c position)).symm
  | resolve position =>
    rw [step]
    unfold resolve
    split <;> exact Nat.le_refl _
  | run index =>
    rw [step]
    split
    next task _ =>
      have hh := runTask_handed { c with kept := c.kept.eraseIdx index } task
      exact Nat.le_of_eq (congrArg List.length hh).symm
    next => exact Nat.le_refl _

theorem resolve_congr {env env' : Environment ρ} (c : Course ρ) {position : Nat}
    (h : env.outcome position = env'.outcome position) :
    c.resolve env position = c.resolve env' position := by
  unfold resolve
  rw [h]

theorem poll_congr {env env' : Environment ρ} (c : Course ρ)
    (h : ∀ i, c.handed.length ≤ i → env.discipline i = env'.discipline i) :
    c.poll env = c.poll env' := by
  cases hw : c.execution.awaitsRequest with
  | true => rw [poll_of_awaitsRequest env hw, poll_of_awaitsRequest env' hw]
  | false =>
    rw [poll_of_not_awaitsRequest env hw, poll_of_not_awaitsRequest env' hw]
    exact perform_congr _ _ fun i hi _ => h i hi

/-- A request ends as the environment says, or nothing happens. -/
theorem resolve_eq_or_finish (env : Environment ρ) (c : Course ρ) (position : Nat) :
    c.resolve env position = c ∨ ∃ p, c.requests[position]? = some p ∧
      c.resolve env position = c.finish position (env.outcome position) := by
  unfold resolve
  split
  next hp => exact .inr ⟨_, hp, rfl⟩
  next hp ho => exact .inr ⟨_, hp, by rw [ho]⟩
  next => exact .inl rfl

/-- A request that is over stays so. -/
theorem step_ended (env : Environment ρ) {c : Course ρ} {i : Nat}
    (h : c.requests[i]? = some .ended) (move : Move) :
    (c.step env move).requests[i]? = some .ended := by
  rcases step_requests env c move with hs | ⟨j, hs⟩ | ⟨j, p, hp, -, hs⟩
  · rw [hs.requests, h]
  · rw [hs.requests]
    unfold send
    split
    next hj _ =>
      have hij : j ≠ i := by
        rintro rfl
        rw [h] at hj
        cases hj
      exact (List.getElem?_set_ne hij).trans h
    next => exact h
  · rw [hs.requests]
    by_cases hij : j = i
    · subst hij
      exact List.getElem?_set_self (List.getElem?_eq_some_iff.mp hp).1
    · exact (List.getElem?_set_ne hij).trans h

namespace Agree

variable {c : Course ρ} {env env' : Environment ρ}

theorem step_eq (h : c.Agree env env') (move : Move) : c.step env move = c.step env' move := by
  cases move with
  | poll => exact poll_congr c h.discipline
  | send position => rfl
  | resolve position =>
    rw [step, step]
    by_cases he : c.requests[position]? = some .ended
    · unfold resolve
      rw [he]
    · exact resolve_congr c (h.outcome position he)
  | run index => rfl

theorem step (h : c.Agree env env') (move : Move) : (c.step env move).Agree env env' where
  outcome i hi := h.outcome i fun he => hi (step_ended env he move)
  discipline i hi := h.discipline i (Nat.le_trans (step_handed_le env c move) hi)

theorem run_eq (h : c.Agree env env') (moves : List Move) : c.run env moves = c.run env' moves := by
  induction moves generalizing c with
  | nil => rfl
  | cons move rest ih =>
    change (c.step env move).run env rest = (c.step env' move).run env' rest
    rw [ih (h.step move), h.step_eq move]

end Agree

/-- What is decided in `c` is as in `env`, the rest as in `later`. -/
def decided (c : Course ρ) (env later : Environment ρ) : Environment ρ where
  outcome i := if c.requests[i]? = some .ended then env.outcome i else later.outcome i
  discipline i := if i < c.handed.length then env.discipline i else later.discipline i

theorem within_decided {a : Allowance ρ} (c : Course ρ) {env later : Environment ρ}
    {statements : List Statement} (h : env.Within a statements)
    (hl : later.Within a statements) : (c.decided env later).Within a statements where
  ends i statement hi := by
    change a.ends statement
      (if c.requests[i]? = some .ended then env.outcome i else later.outcome i)
    split
    next => exact h.ends i statement hi
    next => exact hl.ends i statement hi
  others i hi := by
    change ∃ statement, a.ends statement
      (if c.requests[i]? = some .ended then env.outcome i else later.outcome i)
    split
    next => exact h.others i hi
    next => exact hl.others i hi
  does i := by
    change a.does (if i < c.handed.length then env.discipline i else later.discipline i)
    split
    next => exact h.does i
    next => exact hl.does i

theorem agree_decided (c : Course ρ) (env later : Environment ρ) :
    c.Agree (c.decided env later) later where
  outcome _ hi := if_neg hi
  discipline _ hi := if_neg (Nat.not_lt.mpr hi)

/-- A move that changes something is the same under what it settles. -/
theorem step_decided {c : Course ρ} {env : Environment ρ} {move : Move}
    (h : c.step env move ≠ c) (later : Environment ρ) :
    c.step ((c.step env move).decided env later) move = c.step env move := by
  cases move with
  | poll =>
    simp only [step]
    cases hw : c.execution.awaitsRequest with
    | true => rw [poll_of_awaitsRequest env hw, poll_of_awaitsRequest _ hw]
    | false =>
      rw [poll_of_not_awaitsRequest env hw, poll_of_not_awaitsRequest _ hw]
      exact (perform_congr _ _ fun i _ hi => (if_pos hi).symm).symm
  | send position => rfl
  | resolve position =>
    rcases resolve_eq_or_finish env c position with hr | ⟨p, hp, hr⟩
    · exact absurd hr h
    · have hended : (c.resolve env position).requests[position]? = some .ended := by
        rw [hr]
        exact List.getElem?_set_self (List.getElem?_eq_some_iff.mp hp).1
      exact resolve_congr c (if_pos hended)
  | run index => rfl

/-- What courses reach under changing environments, each does under one. -/
theorem Reaches.exists_run {a : Allowance ρ} {c d : Course ρ} (h : Reaches a c d)
    {env : Environment ρ} (he : env.Within a d.statements) :
    ∃ env' moves, env'.Within a d.statements ∧ c.run env' moves = d := by
  induction h using Relation.ReflTransGen.head_induction_on with
  | refl => exact ⟨env, [], he, rfl⟩
  | @head c middle hm hr ih =>
    obtain ⟨first, move, hw, rfl⟩ := hm
    rw [← step_statements first c move, ← Reaches.statements hr] at hw
    obtain ⟨later, moves, hl, rfl⟩ := ih
    by_cases hc : c.step first move = c
    · exact ⟨later, moves, hl, by rw [hc]⟩
    · have hm := step_decided hc later
      refine ⟨(c.step first move).decided first later, move :: moves,
        within_decided _ hw hl, ?_⟩
      change (c.step _ move).run _ moves = _
      rw [hm]
      exact (agree_decided _ first later).run_eq moves

end Course
end CqlOperations
