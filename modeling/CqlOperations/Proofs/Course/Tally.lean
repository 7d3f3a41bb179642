import CqlOperations.Proofs.Course.Conclusion
import Mathlib.Data.List.Perm.Basic

/-! No task is lost but those that the executor drops: where a course is settled all others that were
handed over have run, in some order. -/
namespace CqlOperations

variable {ρ : Type}

theorem Environment.taken_concat (env : Environment ρ) (tasks : List (Action ρ)) (task : Action ρ) :
    env.taken 0 (tasks ++ [task]) = env.taken 0 tasks ++
      if env.discipline tasks.length = .drops then [] else [task] := by
  rw [taken_append, Nat.zero_add]
  rfl

namespace Course

/-- What was handed over has run or is kept. -/
def Tallied (c : Course ρ) : Prop :=
  (c.ran ++ c.kept).Perm c.handed

/-- What was handed over and not dropped has run or is kept. -/
def Accounted (env : Environment ρ) (c : Course ρ) : Prop :=
  (c.ran ++ c.kept).Perm (env.taken 0 c.handed)

theorem runTask_ran (c : Course ρ) (task : Action ρ) :
    (c.runTask task).1.ran = c.ran ++ [task] := by
  unfold runTask
  split
  next => split <;> rfl
  next => rfl

theorem runTask_handed (c : Course ρ) (task : Action ρ) :
    (c.runTask task).1.handed = c.handed := by
  unfold runTask
  split
  next => split <;> rfl
  next => rfl

namespace Accounted

variable {env : Environment ρ} {c : Course ρ}

theorem hand (h : c.Accounted env) (task : Action ρ) : (c.hand env task).1.Accounted env := by
  unfold Accounted at h ⊢
  unfold Course.hand
  split
  next hd =>
    rw [runTask_ran, runTask_kept, runTask_handed, Environment.taken_concat, hd]
    calc
      (c.ran ++ [task] ++ c.kept).Perm (c.ran ++ c.kept ++ [task]) := by
        rw [List.append_assoc, List.append_assoc]
        exact (List.perm_append_comm).append_left c.ran
      List.Perm _ (env.taken 0 c.handed ++ [task]) := h.append_right [task]
  next hd =>
    rw [Environment.taken_concat, hd]
    change (c.ran ++ (c.kept ++ [task])).Perm (env.taken 0 c.handed ++ [task])
    rw [← List.append_assoc]
    exact h.append_right [task]
  next hd =>
    have hdropped : ∀ given : Course ρ, (given.dropTask task).ran = given.ran ∧
        (given.dropTask task).kept = given.kept ∧ (given.dropTask task).handed = given.handed := by
      intro given
      cases task <;> exact ⟨rfl, rfl, rfl⟩
    obtain ⟨hran, hkept, hhanded⟩ := hdropped { c with handed := c.handed ++ [task] }
    rw [hran, hkept, hhanded, Environment.taken_concat, hd, if_pos rfl, List.append_nil]
    exact h

theorem perform (h : c.Accounted env) (tasks : List (Action ρ)) :
    (c.perform env tasks).Accounted env := by
  induction tasks generalizing c with
  | nil => exact h
  | cons task rest ih =>
    have hh := h.hand task
    rw [Course.perform]
    split
    next given heq =>
      rw [heq] at hh
      exact ih hh
    next given message heq =>
      rw [heq] at hh
      exact hh

theorem runKept (h : c.Accounted env) {index : Nat} {task : Action ρ}
    (hk : c.kept[index]? = some task) :
    (({ c with kept := c.kept.eraseIdx index }.runTask task).1).Accounted env := by
  unfold Accounted at h ⊢
  rw [runTask_ran, runTask_kept, runTask_handed]
  obtain ⟨hi, rfl⟩ := List.getElem?_eq_some_iff.mp hk
  have hp : (c.kept[index] :: c.kept.eraseIdx index).Perm c.kept :=
    List.getElem_cons_eraseIdx_perm hi
  rw [List.append_assoc]
  exact (hp.append_left c.ran).trans h

theorem step (h : c.Accounted env) (move : Move) : (c.step env move).Accounted env := by
  have hsend : ∀ position, (c.send position).Accounted env := by
    intro position
    unfold Course.send
    split <;> exact h
  cases move with
  | poll =>
    rw [Course.step]
    cases hw : c.execution.awaitsRequest with
    | true =>
      rw [poll_of_awaitsRequest env hw]
      exact hsend 0
    | false =>
      rw [poll_of_not_awaitsRequest env hw]
      exact perform (c := { c with execution := c.execution.poll.1 }) h _
  | send position =>
    rw [Course.step]
    split
    next => exact h
    next => exact hsend position
  | resolve position =>
    rw [Course.step]
    unfold Course.resolve
    split <;> exact h
  | run index =>
    rw [Course.step]
    split
    next task hk => exact h.runKept hk
    next => exact h

theorem run (h : c.Accounted env) (moves : List Move) : (c.run env moves).Accounted env :=
  run_induction (fun _ move hc => hc.step move) h moves

theorem start (env : Environment ρ) (s : Submission ρ) : (Course.start s).Accounted env :=
  List.Perm.refl []

end Accounted

namespace Tallied

variable {env : Environment ρ} {c : Course ρ}

/-- An executor that runs every task drops none. -/
theorem iff_accounted (hr : env.RunsAll) : c.Tallied ↔ c.Accounted env := by
  unfold Tallied Accounted
  rw [hr.taken]

theorem run (hr : env.RunsAll) (h : c.Tallied) (moves : List Move) :
    (c.run env moves).Tallied :=
  (iff_accounted hr).mpr (((iff_accounted hr).mp h).run moves)

theorem start (s : Submission ρ) : (Course.start s).Tallied :=
  List.Perm.refl []

end Tallied
end Course
end CqlOperations
