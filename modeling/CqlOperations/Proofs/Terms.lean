import CqlOperations.Proofs.Course
import CqlOperations.Proofs.Execution

/-! The terms that an execution is under, from its submission to its end: they never change, and the
handler that they name is the only one that it ever reports to. -/
namespace CqlOperations

namespace Notifier

/-! A report names the handler of its notifier. -/

theorem handler_of_mem_notify {n : Notifier} {error : OperationError} {level : Nat} {r : Report}
    (h : r ∈ (n.notify error level).2) : n.handler = some r.handler := by
  cases level with
  | zero =>
    by_cases hf : n.fired = true
    · rw [notify_zero_of_fired n error hf] at h
      cases h
    · rw [notify_zero n error (Bool.eq_false_iff.mpr hf)] at h
      cases hh : n.handler with
      | none =>
        rw [hh] at h
        cases h
      | some handler =>
        rw [hh] at h
        obtain rfl := List.mem_singleton.mp h
        rfl
  | succ level => cases h

theorem notifyAll_cons (n : Notifier) (level : Nat) (error : OperationError)
    (rest : List OperationError) :
    n.notifyAll level (error :: rest) =
      (((n.notify error level).1.notifyAll level rest).1,
        (n.notify error level).2 ++ ((n.notify error level).1.notifyAll level rest).2) := rfl

@[simp] theorem notifyAll_handler (n : Notifier) (level : Nat) (errors : List OperationError) :
    (n.notifyAll level errors).1.handler = n.handler := by
  induction errors generalizing n with
  | nil => rfl
  | cons error rest ih => rw [notifyAll_cons, ih, notify_handler]

theorem handler_of_mem_notifyAll {n : Notifier} {level : Nat} {errors : List OperationError}
    {r : Report} (h : r ∈ (n.notifyAll level errors).2) : n.handler = some r.handler := by
  induction errors generalizing n with
  | nil => cases h
  | cons error rest ih =>
    rw [notifyAll_cons] at h
    rcases List.mem_append.mp h with h | h
    · exact handler_of_mem_notify h
    · have hrest := ih h
      rwa [notify_handler] at hrest

theorem handler_of_mem_release {n : Notifier} {level : Nat} {r : Report}
    (h : r ∈ (n.release level).2) : n.handler = some r.handler := by
  unfold release at h
  split at h
  next => exact handler_of_mem_notify h
  next => cases h

theorem handler_of_mem_releaseAll {n : Notifier} {count : Nat} {r : Report}
    (h : r ∈ (n.releaseAll count).2) : n.handler = some r.handler := by
  induction count generalizing n with
  | zero => cases h
  | succ level ih =>
    rw [releaseAll_succ] at h
    rcases List.mem_append.mp h with h | h
    · exact handler_of_mem_release h
    · have hrest := ih h
      rwa [release_handler] at hrest

end Notifier

/-- What does not depend on how far an execution is. -/
structure Terms where
  translator : Translator
  path : Path
  handler : Option Handler

variable {σ ρ : Type}

namespace Execution

def terms (x : Execution ρ) : Terms :=
  ⟨x.translator, x.path, x.notifier.handler⟩

theorem terms_notifier (x : Execution ρ) {n : Notifier} (h : n.handler = x.notifier.handler) :
    ({ x with notifier := n } : Execution ρ).terms = x.terms := by
  simp only [terms, h]

theorem terms_finish (x : Execution ρ) (result : Result ρ) :
    (x.finish result).1.terms = x.terms := by
  have hh := finish_handler x result
  simp only [terms, hh]
  unfold finish
  split <;> rfl

theorem terms_fail (x : Execution ρ) (level : Nat) (error : OperationError) :
    (x.fail level error).1.terms = x.terms :=
  (terms_finish _ _).trans (x.terms_notifier (x.notifier.releaseAll_handler level))

theorem terms_proceed (x : Execution ρ) (output : Output ρ) (processors : List (Processor ρ)) :
    (x.proceed output processors).1.terms = x.terms := by
  cases processors with
  | nil => exact x.terms_finish _
  | cons processor rest => rfl

theorem terms_gathered (x : Execution ρ) (processors : List (Processor ρ)) (result : Result ρ) :
    (x.gathered processors result).1.terms = x.terms := by
  cases result with
  | error error => exact x.terms_fail _ error
  | ok output =>
    refine (terms_proceed _ output processors).trans (x.terms_notifier ?_)
    split
    next error _ => exact x.notifier.notify_handler error _
    next => rfl

theorem terms_processed (x : Execution ρ) (processors : List (Processor ρ)) (result : Result ρ) :
    (x.processed processors result).1.terms = x.terms := by
  cases result with
  | error error =>
    exact (terms_fail _ _ error).trans (x.terms_notifier (x.notifier.notify_handler error _))
  | ok output =>
    exact (terms_proceed _ output processors).trans
      (x.terms_notifier (x.notifier.release_handler _))

theorem terms_poll (x : Execution ρ) : x.poll.1.terms = x.terms := by
  unfold poll
  split
  next =>
    split
    next => exact x.terms_gathered _ _
    next => rfl
  next => exact x.terms_processed _ _
  next => rfl

theorem terms_resolve (x : Execution ρ) (request : Nat) (resolution : Resolution ρ) :
    (x.resolve request resolution).terms = x.terms := by
  unfold resolve
  split
  next => split <;> rfl
  next => rfl
  next => rfl

/-- Nothing that happens to an execution changes its terms. -/
theorem terms_handle (x : Execution ρ) (s : Signal ρ) : (x.handle s).1.terms = x.terms := by
  have haccept : ∀ result, (x.acceptProcessed result).terms = x.terms := by
    intro result
    unfold acceptProcessed
    split <;> rfl
  cases s with
  | resolved request resolution => exact x.terms_resolve request resolution
  | processed result => exact haccept result
  | dropped => exact haccept _
  | unwound message =>
    simp only [handle, unwind]
    split <;> rfl
  | polled => exact x.terms_poll

/-- All reports among the actions name this handler. -/
def ReportsTo (handler : Option Handler) (actions : List (Action ρ)) : Prop :=
  ∀ r, Action.report r ∈ actions → handler = some r.handler

namespace ReportsTo

variable {handler : Option Handler} {first rest : List (Action ρ)}

theorem nil : ReportsTo handler ([] : List (Action ρ)) :=
  fun _ h => absurd h List.not_mem_nil

/-- An action that is no report. -/
theorem single {action : Action ρ} (h : action.report? = none) : ReportsTo handler [action] := by
  intro r hr
  rw [← List.mem_singleton.mp hr] at h
  cases h

theorem append (hf : ReportsTo handler first) (hr : ReportsTo handler rest) :
    ReportsTo handler (first ++ rest) := by
  intro r h
  rcases List.mem_append.mp h with h | h
  · exact hf r h
  · exact hr r h

theorem reports {rs : List Report} (h : ∀ r ∈ rs, handler = some r.handler) :
    ReportsTo handler (Execution.reports rs : List (Action ρ)) := by
  intro r hr
  obtain ⟨r', hr', he⟩ := List.mem_map.mp hr
  cases he
  exact h r hr'

theorem finish (x : Execution ρ) (result : Result ρ) :
    ReportsTo x.notifier.handler (x.finish result).2 := by
  unfold Execution.finish
  split
  next => exact nil
  next => exact single rfl
  next => exact reports fun r => Notifier.handler_of_mem_notify

theorem fail (x : Execution ρ) (level : Nat) (error : OperationError) :
    ReportsTo x.notifier.handler (x.fail level error).2 := by
  have hrest := finish { x with notifier := (x.notifier.releaseAll level).1 } (.error error)
  simp only [Notifier.releaseAll_handler] at hrest
  exact (reports fun r => Notifier.handler_of_mem_releaseAll).append hrest

theorem proceed (x : Execution ρ) (output : Output ρ) (processors : List (Processor ρ)) :
    ReportsTo x.notifier.handler (x.proceed output processors).2 := by
  cases processors with
  | nil => exact finish x _
  | cons processor rest => exact single rfl

theorem gathered (x : Execution ρ) (processors : List (Processor ρ)) (result : Result ρ) :
    ReportsTo x.notifier.handler (x.gathered processors result).2 := by
  cases result with
  | error error => exact fail x _ error
  | ok output =>
    unfold Execution.gathered
    dsimp only
    cases output.failure? with
    | none => exact proceed _ output processors
    | some error =>
      have hrest := proceed
        { x with notifier := (x.notifier.notify error processors.length).1 } output processors
      simp only [Notifier.notify_handler] at hrest
      exact (reports fun r => Notifier.handler_of_mem_notify).append hrest

theorem processed (x : Execution ρ) (processors : List (Processor ρ)) (result : Result ρ) :
    ReportsTo x.notifier.handler (x.processed processors result).2 := by
  cases result with
  | error error =>
    have hrest := fail { x with notifier := (x.notifier.notify error processors.length).1 }
      processors.length error
    simp only [Notifier.notify_handler] at hrest
    exact (reports fun r => Notifier.handler_of_mem_notify).append hrest
  | ok output =>
    have hrest := proceed
      { x with notifier := (x.notifier.release processors.length).1 } output processors
    simp only [Notifier.release_handler] at hrest
    exact (reports fun r => Notifier.handler_of_mem_release).append hrest

theorem handle (x : Execution ρ) (s : Signal ρ) :
    ReportsTo x.notifier.handler (x.handle s).2 := by
  cases s with
  | polled =>
    simp only [Execution.handle, poll]
    split
    next =>
      split
      next => exact gathered x _ _
      next => exact nil
    next => exact processed x _ _
    next => exact nil
  | _ => exact nil

/-- Whatever happens to an execution, it reports to the handler that it began with. -/
theorem run (x : Execution ρ) (signals : List (Signal ρ)) :
    ReportsTo x.notifier.handler (x.run signals).2 := by
  induction signals generalizing x with
  | nil => exact nil
  | cons s rest ih =>
    have hh : (x.handle s).1.notifier.handler = x.notifier.handler :=
      congrArg Terms.handler (x.terms_handle s)
    have hrest := ih (x.handle s).1
    rw [hh] at hrest
    exact (handle x s).append hrest

end ReportsTo
end Execution

namespace Operation

open Execution (ReportsTo)

/-- Layers that notify errors of their own report to the same handler. -/
theorem announce_reportsTo (gathering? : Option (Gathering ρ)) (n : Notifier) (level : Nat)
    (layers : List (Layer ρ)) :
    (announce gathering? n level layers).1.handler = n.handler ∧
      ReportsTo n.handler (announce gathering? n level layers).2 := by
  induction layers generalizing n level with
  | nil => exact ⟨rfl, ReportsTo.nil⟩
  | cons layer inner ih =>
    cases layer with
    | transform processor => exact ih n (level + 1)
    | probe before after =>
      obtain ⟨hinner, hactions⟩ := ih (n.notifyAll level before).1 level
      rw [Notifier.notifyAll_handler] at hinner hactions
      have hfirst : ReportsTo n.handler
          ((n.notifyAll level before).2.map Action.report : List (Action ρ)) :=
        ReportsTo.reports fun r => Notifier.handler_of_mem_notifyAll
      cases gathering? with
      | none => exact ⟨hinner, hfirst.append hactions⟩
      | some gathering =>
        refine ⟨(Notifier.notifyAll_handler _ level after).trans hinner, ?_⟩
        have hlast : ReportsTo n.handler (Execution.reports ((announce (some gathering)
            (n.notifyAll level before).1 level inner).1.notifyAll level after).2 :
              List (Action ρ)) := by
          refine ReportsTo.reports fun r hr => ?_
          rw [← hinner]
          exact Notifier.handler_of_mem_notifyAll hr
        exact ((hfirst.append hactions).append (.single rfl)).append hlast

/-- An execution is under the terms of the operation that was submitted. -/
theorem terms_of_submit {o : Operation σ ρ} {path : Path} {state : σ} {s : Submission ρ}
    (h : (o.submit path state).1 = .ok s) :
    s.execution.terms = ⟨o.translator, path, o.options.handler⟩ := by
  unfold submit at h
  dsimp only at h
  split at h
  next => cases h
  next =>
    cases h
    simp only [Execution.terms, (announce_reportsTo _ _ _ _).1, Notifier.ofLevels]

theorem reportsTo_submit (o : Operation σ ρ) (path : Path) (state : σ) :
    ReportsTo o.options.handler (o.submit path state).2.1 := by
  unfold submit
  dsimp only
  split
  next => exact (announce_reportsTo _ (.ofLevels o.options.handler _) _ _).2
  next => exact (announce_reportsTo _ (.ofLevels o.options.handler _) _ _).2

end Operation
end CqlOperations
