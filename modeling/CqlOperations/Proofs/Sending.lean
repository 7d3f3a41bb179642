import CqlOperations.Proofs.Stack

/-! What the session receives of a submission: its statements and no other, each from the request at
its position and at most once. -/
namespace CqlOperations

variable {σ ρ : Type}

/-- The session receives `statements` of a submission, each from the request at its position. A
request that is cancelled may end before it sent its own. -/
structure Submission.Sends (s : Submission ρ) (env : Environment ρ) (statements : List Statement) :
    Prop where
  atMost : ∀ (moves : List Move) (i : Nat),
    ((Course.start s).run env moves).received i <+: statements[i]?.toList
  all : s.LeadsTo env fun c => ∀ i, env.outcome i ≠ .cancelled →
    c.received i = statements[i]?.toList

namespace Course

variable {env : Environment ρ} {all : List Statement} {c : Course ρ}

theorem Logged.received_isPrefix (h : c.Logged env all) (i : Nat) :
    c.received i <+: all[i]?.toList := by
  cases hst : all[i]? with
  | none => rw [h.others i (List.getElem?_eq_none_iff.mp hst)]; exact List.nil_prefix
  | some statement =>
    obtain ⟨hi, -⟩ := List.getElem?_eq_some_iff.mp hst
    obtain ⟨p, hp⟩ : ∃ p, c.requests[i]? = some p := ⟨_, List.getElem?_eq_getElem (h.length ▸ hi)⟩
    have hr := h.received i statement p hst hp
    cases p with
    | spawned =>
      have hnil : c.received i = [] := hr
      rw [hnil]
      exact List.nil_prefix
    | sent =>
      have hone : c.received i = [statement] := hr
      exact hone ▸ List.prefix_rfl
    | ended =>
      rcases hr with hr | ⟨-, hr⟩
      · exact hr ▸ List.prefix_rfl
      · rw [hr]
        exact List.nil_prefix

/-- A request that is over has sent its statement, unless it was cancelled. -/
theorem Logged.received_of_allEnded (h : c.Logged env all) (ho : c.AllEnded) {i : Nat}
    (hc : env.outcome i ≠ .cancelled) : c.received i = all[i]?.toList := by
  cases hst : all[i]? with
  | none => exact h.others i (List.getElem?_eq_none_iff.mp hst)
  | some statement =>
    obtain ⟨hi, -⟩ := List.getElem?_eq_some_iff.mp hst
    have hp : c.requests[i]? = some .ended := by
      rw [List.getElem?_eq_getElem (h.length ▸ hi), ho _ (List.getElem_mem _)]
    rcases h.received i statement .ended hst hp with hr | ⟨hcancelled, -⟩
    · exact hr
    · exact absurd hcancelled hc

/-- A course awaits its request from the start or not at all. -/
theorem awaitsRequest_start {s : Submission ρ} {moves : List Move}
    (h : ((start s).run env moves).execution.awaitsRequest = true) :
    s.execution.awaitsRequest = true := by
  cases hw : s.execution.awaitsRequest with
  | true => rfl
  | false =>
    have hrun := run_execution (P := fun x => x.awaitsRequest = false)
      (fun _ signal hx => Execution.awaitsRequest_handle hx signal) env (c := start s) hw moves
    rw [hrun] at h
    cases h

end Course

namespace Operation.IsStack

variable {o : Operation σ ρ} {path : Path} {state : σ} {s : Submission ρ}

/-- Only a single statement is sent from the task of its execution. -/
theorem length_of_awaitsRequest (h : o.IsStack) (hs : (o.submit path state).1 = .ok s)
    (hw : s.execution.awaitsRequest = true) : s.statements.length = 1 := by
  obtain ⟨statements, hc, rfl⟩ := h.submit_ok hs
  cases hb : o.base with
  | known statement result => exact absurd hb (h.sends statement result)
  | single creator => exact length_of_createStatements_single hb hc
  | fanOut type creators =>
    simp only [submission, gathering, hb, Execution.awaitsRequest] at hw
    cases statements with
    | nil => simp at hw
    | cons statement rest => simp at hw

/-- What a stack submits reaches the session as it was submitted. -/
theorem sends_statements (h : o.IsStack) (hs : (o.submit path state).1 = .ok s)
    (env : Environment ρ) : s.Sends env s.statements where
  atMost moves i := ((Course.Logged.start env s).run moves).received_isPrefix i
  all :=
    { settles := fun schedule hf => hf.exists_settled
      holds := fun moves hset i hc => by
        have hl := (Course.Logged.start env s).run moves
        refine hl.received_of_allEnded (hset.allEnded (by rw [hl.length, hl.statements]) ?_) hc
        intro hw
        exact Nat.le_of_eq
          (hl.length.trans (h.length_of_awaitsRequest hs (Course.awaitsRequest_start hw))) }

end Operation.IsStack

end CqlOperations
