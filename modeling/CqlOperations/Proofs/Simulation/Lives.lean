import CqlOperations.Proofs.Execution
import CqlOperations.Proofs.Pending.Uses
import CqlOperations.Simulation.Clock

/-! The life of the task of an execution, as the handle to it sees that: it takes signals until it
has a result, panics or is cancelled, if that ever happens. -/
namespace CqlOperations.Simulation

variable {ρ : Type}

/-- What happens to a task. -/
inductive Incident (ρ : Type) where
  | signal (s : Signal ρ)
  | cancelled

namespace Flow

/-- A cancelled task takes no signals. -/
def undergo (f : Flow ρ) : Incident ρ → Flow ρ
  | .signal s =>
    if f.mode = .cancelled then f else { f with execution := (f.execution.handle s).1 }
  | .cancelled => f.cancelTask

/-- The task at a moment of its life, which says what happens from each moment to the next. -/
def after (f : Flow ρ) (life : Nat → List (Incident ρ)) : Nat → Flow ρ
  | 0 => f
  | n + 1 => (life n).foldl undergo (f.after life n)

/-- What joining the task gives so far. -/
def joined? (f : Flow ρ) : Option (Result ρ) :=
  f.execution.result?.or (if f.mode = .cancelled then some (.error .cancelled) else none)

/-- The ways for a task to end, and what joining it gives then. -/
inductive Ends (f : Flow ρ) : Result ρ → Prop where
  | normally {result : Result ρ} (hs : f.execution.stage = .ended result) : Ends f result
  | panicking {message : String} (hs : f.execution.stage = .unwound message) :
      Ends f (.error (.interrupted
        ("the task panicked: task N panicked with message " ++ Text.quoted message)))
  | cancelled (hr : f.execution.result? = none) (hm : f.mode = .cancelled) :
      Ends f (.error (.interrupted "the task was cancelled"))

theorem joined?_eq_some_iff {f : Flow ρ} {r : Result ρ} : f.joined? = some r ↔ f.Ends r := by
  constructor
  · intro h
    cases hx : f.execution.result? with
    | some result =>
      obtain rfl : result = r := by simpa [joined?, hx] using h
      unfold Execution.result? at hx
      split at hx
      next result hs =>
        cases hx
        exact .normally hs
      next message hs =>
        cases hx
        exact .panicking hs
      next => cases hx
    | none =>
      by_cases hm : f.mode = .cancelled
      · simp only [joined?, hx, hm, Option.none_or, if_true, Option.some.injEq] at h
        subst h
        exact .cancelled hx hm
      · simp [joined?, hx, hm] at h
  · intro h
    cases h with
    | normally hs => simp [joined?, Execution.result?, hs]
    | panicking hs => simp [joined?, Execution.result?, hs, OperationError.panicked]
    | cancelled hr hm => simp [joined?, hr, hm, OperationError.cancelled]

/-- A task that is over stays as it ended. -/
theorem joined?_undergo {f : Flow ρ} {r : Result ρ} (h : f.joined? = some r) (i : Incident ρ) :
    (f.undergo i).joined? = some r := by
  cases i with
  | cancelled =>
    by_cases hc : f.mode = .running ∧ f.execution.result?.isNone
    · -- a running task without a result is not over
      have hx := Option.isNone_iff_eq_none.mp hc.2
      simp [joined?, hx, hc.1] at h
    · simp only [undergo, cancelTask, if_neg hc]
      exact h
  | signal s =>
    unfold undergo
    by_cases hm : f.mode = .cancelled
    · simp only [hm, if_true]
      exact h
    · have hx : f.execution.result? = some r := by simpa [joined?, hm] using h
      simp only [hm, if_false]
      simp only [joined?, Execution.result?_handle hx s, Option.some_or]

theorem joined?_after (f : Flow ρ) (life : Nat → List (Incident ρ)) {m n : Nat} {r : Result ρ}
    (hmn : m ≤ n) (h : (f.after life m).joined? = some r) :
    (f.after life n).joined? = some r := by
  have hall : ∀ (incidents : List (Incident ρ)) (f : Flow ρ), f.joined? = some r →
      (incidents.foldl undergo f).joined? = some r := by
    intro incidents
    induction incidents with
    | nil => exact fun f hf => hf
    | cons i rest ih => exact fun f hf => ih (f.undergo i) (joined?_undergo hf i)
  induction hmn with
  | refl => exact h
  | step _ ih => exact hall _ _ ih

/-- What joining the task gives at each moment. -/
def history (f : Flow ρ) (life : Nat → List (Incident ρ)) : Pending.History ρ where
  found n := (f.after life n).joined?
  stays := f.joined?_after life

/-- The result of an execution that is known from the start, or else that of its task. -/
def source (f : Flow ρ) (life : Nat → List (Incident ρ)) : Pending.Source ρ :=
  match f.execution.known? with
  | some result => .known result
  | none => .task (f.history life)

theorem handle_source (f : Flow ρ) (life : Nat → List (Incident ρ)) :
    (f.source life).handle = Pending.ofExecution f.execution () := by
  unfold source Pending.ofExecution
  cases f.execution.known? <;> rfl

theorem found_source (f : Flow ρ) (life : Nat → List (Incident ρ)) (n : Nat) (r : Result ρ) :
    (f.source life).found n = some r ↔
      f.execution.known? = some r ∨ f.execution.known? = none ∧ (f.after life n).Ends r := by
  unfold source
  cases hk : f.execution.known? with
  | some result => simp [Pending.Source.found]
  | none => simp [Pending.Source.found, history, joined?_eq_some_iff]

/-- The handle to an execution, whatever becomes of its task and however often, how long and in
what order it is waited for and looked at: the first wait at whose end the task is over gets what it
came to, those before expire and leave the handle as it is, and those after are refused. -/
theorem handle_law (f : Flow ρ) (life : Nat → List (Incident ρ)) (now : Nat)
    (spells : List Pending.Spell) :
    Pending.Law (f.source life)
        (Pending.serveAll (f.source life).found now (Pending.ofExecution f.execution ()) spells) ∧
      ∀ n r, (f.source life).found n = some r ↔
        f.execution.known? = some r ∨
          f.execution.known? = none ∧ (f.after life n).Ends r := by
  constructor
  · rw [← f.handle_source life]
    exact Pending.law_serveAll (f.source life) now spells
  · exact f.found_source life

end Flow

namespace World

theorem joined?_eq (w : World ρ) (id : Nat) : w.joined? id = w.flows[id]?.bind Flow.joined? := rfl

/-- A signal that a world gives to an execution is an incident in the life of its task. -/
theorem getElem?_flows_signal {w : World ρ} {id : Nat} {f : Flow ρ} (hf : w.flows[id]? = some f)
    (hm : f.mode ≠ .cancelled) (s : Signal ρ) :
    (w.signal id s).1.flows[id]? = some (f.undergo (.signal s)) := by
  obtain ⟨hlt, -⟩ := List.getElem?_eq_some_iff.mp hf
  simp only [signal, hf, Flow.undergo, hm, if_false]
  exact List.getElem?_set_self hlt

/-- The end of the runtime is one, too. -/
theorem getElem?_flows_shutDown {w : World ρ} {id : Nat} {f : Flow ρ}
    (hf : w.flows[id]? = some f) :
    w.shutDown.flows[id]? = some (f.cancelRequests.undergo .cancelled) := by
  simp [shutDown, hf, Flow.undergo]

end World
end CqlOperations.Simulation
