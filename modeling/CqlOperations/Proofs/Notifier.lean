import CqlOperations.Notifier

/-! What a stack of holding levels passes down. While one processor runs, the level above it keeps
the failure it would release, and all levels below keep nothing. -/
namespace CqlOperations

/-- The calls of a handler, if there is one, for a failure, if there is one. -/
def Report.calls (handler : Option Handler) (failure? : Option OperationError) : List Report :=
  match handler, failure? with
  | some handler, some error => [⟨handler, error⟩]
  | _, _ => []

namespace Report

@[simp] theorem calls_none (handler : Option Handler) : calls handler none = [] := by
  cases handler <;> rfl

@[simp] theorem calls_some (handler : Handler) (failure? : Option OperationError) :
    calls (some handler) failure? = failure?.toList.map (⟨handler, ·⟩) := by
  cases failure? <;> rfl

theorem length_calls_le (handler : Option Handler) (failure? : Option OperationError) :
    (calls handler failure?).length ≤ 1 := by
  cases handler <;> cases failure? <;> simp [calls]

theorem mem_calls {handler : Option Handler} {failure? : Option OperationError} {r : Report} :
    r ∈ calls handler failure? ↔ handler = some r.handler ∧ failure? = some r.error := by
  obtain ⟨called, error⟩ := r
  cases handler <;> cases failure? <;> simp [calls, eq_comm]

end Report

namespace Notifier

/-- Nothing was reported yet, the level above `level` keeps `failure?`, those up to it nothing. -/
structure Parks (n : Notifier) (level : Nat) (failure? : Option OperationError) : Prop where
  fired : n.fired = false
  empty : ∀ i < level, n.held[i]? = some none
  kept : n.held[level]? = some failure?

@[simp] theorem notify_handler (n : Notifier) (error : OperationError) (level : Nat) :
    (n.notify error level).1.handler = n.handler := by
  cases level with
  | zero => simp only [notify]; split <;> rfl
  | succ level => rfl

@[simp] theorem release_handler (n : Notifier) (level : Nat) :
    (n.release level).1.handler = n.handler := by
  unfold release
  split
  · exact notify_handler ..
  · rfl

theorem releaseAll_succ (n : Notifier) (level : Nat) :
    n.releaseAll (level + 1) =
      (((n.release level).1.releaseAll level).1,
        (n.release level).2 ++ ((n.release level).1.releaseAll level).2) := rfl

@[simp] theorem releaseAll_handler (n : Notifier) (count : Nat) :
    (n.releaseAll count).1.handler = n.handler := by
  induction count generalizing n with
  | zero => rfl
  | succ level ih => rw [releaseAll_succ, ih, release_handler]

theorem notify_zero (n : Notifier) (error : OperationError) (hn : n.fired = false) :
    n.notify error 0 = ({ n with fired := true }, Report.calls n.handler (some error)) := by
  simp only [notify, hn, Bool.false_eq_true, if_false]
  cases n.handler <;> rfl

theorem notify_zero_of_fired (n : Notifier) (error : OperationError) (hn : n.fired = true) :
    n.notify error 0 = (n, []) := by
  simp only [notify, hn, if_true]

theorem parks_ofLevels (handler : Option Handler) (level : Nat) :
    (ofLevels handler (level + 1)).Parks level none where
  fired := rfl
  empty i hi := by simp [ofLevels, show i < level + 1 by omega]
  kept := by simp [ofLevels]

/-- A level that keeps nothing takes the first failure it gets. -/
theorem Parks.notify_of_empty {n : Notifier} {level : Nat} (error : OperationError)
    (hf : n.fired = false) (he : ∀ i ≤ level, n.held[i]? = some none) :
    n.notify error (level + 1) = ((n.notify error (level + 1)).1, []) ∧
      (n.notify error (level + 1)).1.Parks level (some error) := by
  refine ⟨rfl, hf, ?_, ?_⟩
  · intro i hi
    simp [notify, show level ≠ i by omega, he i (by omega)]
  · simp [notify, he level (Nat.le_refl level)]

theorem notify_ofLevels (handler : Option Handler) (error : OperationError) (level : Nat) :
    ((ofLevels handler (level + 1)).notify error (level + 1)).1.Parks level (some error) := by
  have hp := parks_ofLevels handler level
  refine (Parks.notify_of_empty error rfl ?_).2
  intro i hi
  simp [ofLevels, show i < level + 1 by omega]

/-- At the reporting level a release is a report. -/
theorem Parks.release_zero {n : Notifier} {failure? : Option OperationError}
    (h : n.Parks 0 failure?) :
    n.release 0 = ({ n with fired := failure?.isSome }, Report.calls n.handler failure?) := by
  obtain ⟨hf, -, hk⟩ := h
  cases failure? with
  | none => simp [release, hk, ← hf]
  | some error => simp [release, hk, notify_zero n error hf]

/-- Above the reporting level a release hands the failure down by one level. -/
theorem Parks.release_succ {n : Notifier} {level : Nat} {failure? : Option OperationError}
    (h : n.Parks (level + 1) failure?) :
    (n.release (level + 1)).2 = [] ∧ (n.release (level + 1)).1.Parks level failure? := by
  obtain ⟨hf, he, hk⟩ := h
  cases failure? with
  | none =>
    have hr : n.release (level + 1) = (n, []) := by simp [release, hk]
    rw [hr]
    exact ⟨rfl, hf, fun i hi => he i (by omega), he level (by omega)⟩
  | some error =>
    have hr : n.release (level + 1) = n.notify error (level + 1) := by simp [release, hk]
    rw [hr]
    exact ⟨rfl, (notify_of_empty error hf fun i hi => he i (by omega)).2⟩

/-- Released all the way down, a failure is reported once. -/
theorem Parks.releaseAll {n : Notifier} {level : Nat} {failure? : Option OperationError}
    (h : n.Parks level failure?) :
    (n.releaseAll (level + 1)).2 = Report.calls n.handler failure? ∧
      (n.releaseAll (level + 1)).1.fired = failure?.isSome := by
  induction level generalizing n with
  | zero => simp [Notifier.releaseAll, h.release_zero]
  | succ level ih =>
    obtain ⟨hr, hp⟩ := h.release_succ
    have hi := ih hp
    rw [release_handler] at hi
    rw [releaseAll_succ, hr]
    exact hi

theorem releaseAll_ofLevels (handler : Option Handler) (count : Nat) :
    ((ofLevels handler count).releaseAll count).2 = [] ∧
      ((ofLevels handler count).releaseAll count).1.fired = false := by
  cases count with
  | zero => exact ⟨rfl, rfl⟩
  | succ level => simpa using (parks_ofLevels handler level).releaseAll

/-- The error of a processor takes the place of what was kept while it ran: it alone reaches the
handler. -/
theorem Parks.notify_releaseAll {n : Notifier} {level : Nat} {failure? : Option OperationError}
    (h : n.Parks level failure?) (error : OperationError) :
    (n.notify error level).2 ++ ((n.notify error level).1.releaseAll level).2 =
        Report.calls n.handler (some error) ∧
      ((n.notify error level).1.releaseAll level).1.fired = true := by
  obtain ⟨hf, he, -⟩ := h
  cases level with
  | zero => simp [notify_zero n error hf, Notifier.releaseAll]
  | succ level =>
    have hp := (notify_of_empty error hf fun i (hi : i ≤ level) => he i (by omega)).2
    have hr := hp.releaseAll
    rw [notify_handler] at hr
    exact hr

end Notifier
end CqlOperations
