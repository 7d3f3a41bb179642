import CqlOperations.Pending

/-! Waits for a result that is not taken yet. A result that was there stays, so it does not matter
when a wait finds it. -/
namespace CqlOperations.Pending

variable {τ ρ : Type} {before after : τ → Option (Result ρ)} {task : τ}

theorem poll_inFlight (joined? : τ → Option (Result ρ)) (task : τ) :
    ((inFlight task).poll joined?).2 = joined? task := by
  cases h : joined? task <;> simp only [poll, h]

theorem wait_inFlight (h : ∀ r, before task = some r → after task = some r) :
    ((inFlight task).wait before after).2 = after task := by
  unfold wait
  cases hb : before task with
  | none =>
    simp only [poll, hb]
    cases ha : after task <;> rfl
  | some r =>
    simp only [poll, hb]
    exact (h r hb).symm

theorem waitWithin_eq (p : Pending τ ρ) (limit : Duration) (before after : τ → Option (Result ρ)) :
    (p.waitWithin limit before after).2 =
      (p.wait before after).2.getD (.error (.waitTimeout limit)) := by
  unfold waitWithin
  cases h : p.wait before after with
  | mk q found? => cases found? <;> rfl

end CqlOperations.Pending
