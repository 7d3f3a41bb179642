import CqlOperations.Execution
import CqlOperations.Proofs.Notifier

/-! Where the stages of an execution lead, and what it hands out on the way. -/
namespace CqlOperations

variable {ρ : Type}

/-- The stage that a result leads to, with these processors still to run. -/
def Stage.after (processors : List (Processor ρ)) : Result ρ → Stage ρ
  | .error error => .ended (.error error)
  | .ok output =>
    match processors with
    | [] => .ended (.ok output)
    | _ :: rest => .processing rest none

/-- A bound on the moves that are left at a stage. -/
def Stage.weight : Stage ρ → Nat
  | .gathering _ processors => 2 * processors.length + 2
  | .processing processors none => 2 * processors.length + 2
  | .processing processors (some _) => 2 * processors.length + 1
  | .ended _ => 0
  | .unwound _ => 0

def Stage.isGathering : Stage ρ → Bool
  | .gathering _ _ => true
  | _ => false

theorem Stage.eq_gathering {stage : Stage ρ} (h : stage.isGathering = true) :
    ∃ g processors, stage = .gathering g processors := by
  cases stage with
  | gathering g processors => exact ⟨g, processors, rfl⟩
  | processing processors made? => cases h
  | ended r => cases h
  | unwound message => cases h

theorem Stage.isGathering_after (processors : List (Processor ρ)) (r : Result ρ) :
    (Stage.after processors r).isGathering = false := by
  cases r with
  | error error => rfl
  | ok output => cases processors <;> rfl

theorem Stage.weight_after_le (processors : List (Processor ρ)) (r : Result ρ) :
    (Stage.after processors r).weight ≤ 2 * processors.length := by
  cases r with
  | error error => exact Nat.zero_le _
  | ok output =>
    cases processors with
    | nil => exact Nat.zero_le _
    | cons processor rest => simp only [after, weight, List.length_cons]; omega

/-- The reports of a failure, as tasks. -/
def Action.calls (handler : Option Handler) (failure? : Option OperationError) :
    List (Action ρ) :=
  (Report.calls handler failure?).map .report

/-- What is handed out at the end, after the last processor: a success gives up the failure that is
left, and goes to the callback if there is one; an error is reported on either path. -/
def Action.closing (path : Path) (handler : Option Handler) (failure? : Option OperationError) :
    Result ρ → List (Action ρ)
  | .error error => calls handler (some error)
  | .ok output =>
    calls handler failure? ++ match path with
      | .caller => []
      | .callback => [.deliver output]

/-- What is handed out if the requests themselves come to an error: only a callback has no caller
to return it to. -/
def Action.failing (path : Path) (handler : Option Handler) (error : OperationError) :
    List (Action ρ) :=
  match path with
  | .caller => []
  | .callback => calls handler (some error)

/-- Whether it is for the executor. -/
def Action.isTask : Action ρ → Bool
  | .observe _ => false
  | _ => true

namespace Execution

@[simp] theorem finish_stage (x : Execution ρ) (r : Result ρ) :
    (x.finish r).1.stage = .ended r := by
  unfold finish
  split <;> rfl

@[simp] theorem fail_stage (x : Execution ρ) (level : Nat) (error : OperationError) :
    (x.fail level error).1.stage = .ended (.error error) :=
  finish_stage _ _

@[simp] theorem proceed_stage (x : Execution ρ) (output : Output ρ)
    (processors : List (Processor ρ)) :
    (x.proceed output processors).1.stage = Stage.after processors (.ok output) := by
  cases processors with
  | nil => exact finish_stage _ _
  | cons processor rest => rfl

@[simp] theorem gathered_stage (x : Execution ρ) (processors : List (Processor ρ))
    (r : Result ρ) : (x.gathered processors r).1.stage = Stage.after processors r := by
  cases r with
  | error error => exact fail_stage _ _ _
  | ok output => exact proceed_stage _ _ _

@[simp] theorem processed_stage (x : Execution ρ) (processors : List (Processor ρ))
    (r : Result ρ) : (x.processed processors r).1.stage = Stage.after processors r := by
  cases r with
  | error error => exact fail_stage _ _ _
  | ok output => exact proceed_stage _ _ _

theorem poll_gathering {x : Execution ρ} {g : Gathering ρ} {processors : List (Processor ρ)}
    (hx : x.stage = .gathering g processors) {r : Result ρ} (hr : g.result? = some r) :
    x.poll = x.gathered processors r := by
  simp only [poll, hx, hr]

theorem poll_gathering_none {x : Execution ρ} {g : Gathering ρ}
    {processors : List (Processor ρ)} (hx : x.stage = .gathering g processors)
    (hr : g.result? = none) : x.poll = (x, []) := by
  simp only [poll, hx, hr]

theorem poll_processing {x : Execution ρ} {processors : List (Processor ρ)} {r : Result ρ}
    (hx : x.stage = .processing processors (some r)) : x.poll = x.processed processors r := by
  simp only [poll, hx]

theorem poll_running {x : Execution ρ} {processors : List (Processor ρ)}
    (hx : x.stage = .processing processors none) : x.poll = (x, []) := by
  simp only [poll, hx]

theorem poll_gathering_lt {x : Execution ρ} {g : Gathering ρ} {processors : List (Processor ρ)}
    (hx : x.stage = .gathering g processors) {r : Result ρ} (hr : g.result? = some r) :
    x.poll.1.stage.weight < x.stage.weight := by
  have hw := Stage.weight_after_le processors r
  rw [poll_gathering hx hr, gathered_stage, hx]
  change _ < 2 * processors.length + 2
  omega

theorem poll_processing_lt {x : Execution ρ} {processors : List (Processor ρ)} {r : Result ρ}
    (hx : x.stage = .processing processors (some r)) :
    x.poll.1.stage.weight < x.stage.weight := by
  have hw := Stage.weight_after_le processors r
  rw [poll_processing hx, processed_stage, hx]
  change _ < 2 * processors.length + 1
  omega

/-- A poll finds nothing new or takes the execution to its next stage. -/
theorem poll_eq_or_lt (x : Execution ρ) :
    x.poll = (x, []) ∨ x.poll.1.stage.weight < x.stage.weight := by
  cases hs : x.stage with
  | gathering g processors =>
    cases hr : g.result? with
    | none => exact Or.inl (poll_gathering_none hs hr)
    | some r => exact Or.inr (hs ▸ poll_gathering_lt hs hr)
  | processing processors made? =>
    cases made? with
    | none => exact Or.inl (poll_running hs)
    | some r => exact Or.inr (hs ▸ poll_processing_lt hs)
  | ended r => exact Or.inl (by simp only [poll, hs])
  | unwound message => exact Or.inl (by simp only [poll, hs])

theorem stage_of_awaitsRequest {x : Execution ρ} (h : x.awaitsRequest = true) :
    ∃ processors, x.stage = .gathering (.single none) processors := by
  unfold awaitsRequest at h
  split at h
  next processors hs => exact ⟨processors, hs⟩
  next => cases h

theorem poll_of_awaitsRequest {x : Execution ρ} (h : x.awaitsRequest = true) :
    x.poll = (x, []) := by
  obtain ⟨processors, hs⟩ := stage_of_awaitsRequest h
  simp only [poll, hs, Gathering.result?, Option.map_none]

theorem resolve_weight_le (x : Execution ρ) (position : Nat) (r : Resolution ρ) :
    (x.resolve position r).stage.weight ≤ x.stage.weight := by
  unfold resolve
  split
  next processors hs =>
    rw [hs]
    cases r <;> simp [Stage.weight, hs]
  next slots processors hs =>
    rw [hs]
    exact Nat.le_refl _
  next => exact Nat.le_refl _

theorem acceptProcessed_weight_le (x : Execution ρ) (r : Result ρ) :
    (x.acceptProcessed r).stage.weight ≤ x.stage.weight := by
  unfold acceptProcessed
  split
  next processors hs =>
    rw [hs]
    simp only [Stage.weight]
    omega
  next => exact Nat.le_refl _

theorem acceptProcessed_running {x : Execution ρ} {processors : List (Processor ρ)}
    (hx : x.stage = .processing processors none) (r : Result ρ) :
    x.acceptProcessed r = { x with stage := .processing processors (some r) } := by
  simp only [acceptProcessed, hx]

theorem unwind_processing {x : Execution ρ} {processors : List (Processor ρ)}
    {made? : Option (Result ρ)} (hx : x.stage = .processing processors made?)
    (message : String) : x.unwind message = { x with stage := .unwound message } := by
  simp only [unwind, hx]

theorem unwind_weight_le (x : Execution ρ) (message : String) :
    (x.unwind message).stage.weight ≤ x.stage.weight := by
  unfold unwind
  split
  next => exact Nat.le_refl _
  next => exact Nat.le_refl _
  next => exact Nat.zero_le _

theorem handle_weight_le (x : Execution ρ) (s : Signal ρ) :
    (x.handle s).1.stage.weight ≤ x.stage.weight := by
  cases s with
  | resolved position r => exact resolve_weight_le x position r
  | processed r => exact acceptProcessed_weight_le x r
  | dropped => exact acceptProcessed_weight_le x _
  | unwound message => exact unwind_weight_le x message
  | polled =>
    rcases poll_eq_or_lt x with h | h
    · exact Nat.le_of_eq (by rw [handle, h])
    · exact Nat.le_of_lt h

theorem poll_of_result? {x : Execution ρ} {r : Result ρ} (h : x.result? = some r) :
    x.poll = (x, []) := by
  unfold result? at h
  unfold poll
  cases hs : x.stage with
  | gathering requests processors => simp [hs] at h
  | processing processors made? => simp [hs] at h
  | ended result => rfl
  | unwound message => rfl

/-- A result is final. -/
theorem result?_handle {x : Execution ρ} {r : Result ρ} (h : x.result? = some r)
    (s : Signal ρ) : (x.handle s).1.result? = some r := by
  have hsame : (x.handle s).1 = x := by
    cases s with
    | polled => rw [handle, poll_of_result? h]
    | resolved position resolution =>
      unfold result? at h
      cases hs : x.stage <;> simp [hs, handle, resolve] at h ⊢
    | processed result =>
      unfold result? at h
      cases hs : x.stage <;> simp [hs, handle, acceptProcessed] at h ⊢
    | dropped =>
      unfold result? at h
      cases hs : x.stage <;> simp [hs, handle, acceptProcessed] at h ⊢
    | unwound message =>
      unfold result? at h
      cases hs : x.stage <;> simp [hs, handle, unwind] at h ⊢
  rw [hsame, h]

/-- Requests are gathered once. -/
theorem isGathering_handle {x : Execution ρ} (h : x.stage.isGathering = false) (s : Signal ρ) :
    (x.handle s).1.stage.isGathering = false := by
  cases hs : x.stage with
  | gathering g processors => simp [hs, Stage.isGathering] at h
  | ended r =>
    cases s <;> simp [handle, resolve, acceptProcessed, unwind, poll, hs, Stage.isGathering]
  | unwound text =>
    cases s <;> simp [handle, resolve, acceptProcessed, unwind, poll, hs, Stage.isGathering]
  | processing processors made? =>
    cases s with
    | polled =>
      rw [handle]
      cases made? with
      | none => rw [poll_running hs, h]
      | some r => rw [poll_processing hs, processed_stage, Stage.isGathering_after]
    | resolved position r => simp [handle, resolve, hs, Stage.isGathering]
    | processed r => cases made? <;> simp [handle, acceptProcessed, hs, Stage.isGathering]
    | dropped => cases made? <;> simp [handle, acceptProcessed, hs, Stage.isGathering]
    | unwound message => simp [handle, unwind, hs, Stage.isGathering]

theorem awaitsRequest_of_not_gathering {x : Execution ρ} (h : x.stage.isGathering = false) :
    x.awaitsRequest = false := by
  unfold awaitsRequest
  split
  next hs => rw [hs] at h; cases h
  next => rfl

/-- The request of a single statement is awaited from the start or not at all. -/
theorem awaitsRequest_handle {x : Execution ρ} (h : x.awaitsRequest = false) (s : Signal ρ) :
    (x.handle s).1.awaitsRequest = false := by
  cases hs : x.stage.isGathering with
  | false => exact awaitsRequest_of_not_gathering (isGathering_handle hs s)
  | true =>
    obtain ⟨g, processors, hx⟩ := Stage.eq_gathering hs
    cases s with
    | polled =>
      rw [handle]
      cases hg : g.result? with
      | none => rw [poll_gathering_none hx hg, h]
      | some r =>
        rw [poll_gathering hx hg]
        apply awaitsRequest_of_not_gathering
        rw [gathered_stage, Stage.isGathering_after]
    | resolved position r =>
      cases g with
      | known result => rw [handle, resolve, hx, h]
      | fanOut slots => simp only [handle, resolve, hx, awaitsRequest]
      | single result =>
        cases result with
        | none => simp only [awaitsRequest, hx, Bool.true_eq_false] at h
        | some r => rw [handle, resolve, hx, h]
    | processed result => rw [handle, acceptProcessed, hx, h]
    | dropped => rw [handle, acceptProcessed, hx, h]
    | unwound message =>
      apply awaitsRequest_of_not_gathering
      rw [handle, unwind, hx]
      rfl

theorem isTask_reports (rs : List Report) :
    ∀ action ∈ (reports rs : List (Action ρ)), action.isTask = true := by
  intro action ha
  obtain ⟨r, -, rfl⟩ := List.mem_map.mp ha
  rfl

theorem isTask_finish (x : Execution ρ) (r : Result ρ) :
    ∀ action ∈ (x.finish r).2, action.isTask = true := by
  intro action ha
  unfold finish at ha
  split at ha
  next => cases ha
  next =>
    obtain rfl := List.mem_singleton.mp ha
    rfl
  next => exact isTask_reports _ action ha

theorem isTask_fail (x : Execution ρ) (level : Nat) (error : OperationError) :
    ∀ action ∈ (x.fail level error).2, action.isTask = true := by
  intro action ha
  rcases List.mem_append.mp ha with ha | ha
  · exact isTask_reports _ action ha
  · exact isTask_finish _ _ action ha

theorem isTask_proceed (x : Execution ρ) (output : Output ρ) (processors : List (Processor ρ)) :
    ∀ action ∈ (x.proceed output processors).2, action.isTask = true := by
  intro action ha
  cases processors with
  | nil => exact isTask_finish _ _ action ha
  | cons processor rest =>
    obtain rfl := List.mem_singleton.mp ha
    rfl

/-- All that an execution wants done is for the executor. -/
theorem isTask_poll (x : Execution ρ) : ∀ action ∈ x.poll.2, action.isTask = true := by
  intro action ha
  unfold poll at ha
  split at ha
  next =>
    split at ha
    next result _ =>
      cases result with
      | error error => exact isTask_fail _ _ _ action ha
      | ok output =>
        rcases List.mem_append.mp ha with ha | ha
        · exact isTask_reports _ action ha
        · exact isTask_proceed _ _ _ action ha
    next => cases ha
  next processors result _ =>
    cases result with
    | error error =>
      rcases List.mem_append.mp ha with ha | ha
      · exact isTask_reports _ action ha
      · exact isTask_fail _ _ _ action ha
    | ok output =>
      rcases List.mem_append.mp ha with ha | ha
      · exact isTask_reports _ action ha
      · exact isTask_proceed _ _ _ action ha
  next => cases ha

@[simp] theorem finish_handler (x : Execution ρ) (r : Result ρ) :
    (x.finish r).1.notifier.handler = x.notifier.handler := by
  unfold finish
  split
  next => rfl
  next => rfl
  next => exact x.notifier.notify_handler _ _

@[simp] theorem proceed_handler (x : Execution ρ) (output : Output ρ)
    (processors : List (Processor ρ)) :
    (x.proceed output processors).1.notifier.handler = x.notifier.handler := by
  cases processors with
  | nil => exact finish_handler _ _
  | cons processor rest => rfl

theorem proceed_notifier (x : Execution ρ) (output : Output ρ)
    (processors : List (Processor ρ)) :
    (x.proceed output processors).1.notifier = x.notifier := by
  cases processors with
  | nil =>
    unfold proceed finish
    cases x.path <;> rfl
  | cons processor rest => rfl

theorem gathered_handler (x : Execution ρ) (processors : List (Processor ρ))
    (output : Output ρ) :
    (x.gathered processors (.ok output)).1.notifier.handler = x.notifier.handler := by
  cases hf : output.failure? with
  | none => simp only [gathered, hf, proceed_handler]
  | some error => simp only [gathered, hf, proceed_handler, Notifier.notify_handler]

theorem processed_handler (x : Execution ρ) (processors : List (Processor ρ))
    (output : Output ρ) :
    (x.processed processors (.ok output)).1.notifier.handler = x.notifier.handler := by
  simp only [processed, proceed_handler, Notifier.release_handler]

theorem finish_ok (x : Execution ρ) (output : Output ρ) :
    (x.finish (.ok output)).2 = Action.closing x.path none none (.ok output) := by
  unfold finish
  cases x.path <;> rfl

theorem finish_error_of_fired (x : Execution ρ) (error : OperationError)
    (hx : x.notifier.fired = true) : (x.finish (.error error)).2 = [] := by
  unfold finish
  cases x.path with
  | caller => rfl
  | callback => simp only [x.notifier.notify_zero_of_fired error hx, reports, List.map_nil]

theorem finish_error (x : Execution ρ) (error : OperationError)
    (hx : x.notifier.fired = false) :
    (x.finish (.error error)).2 = Action.failing x.path x.notifier.handler error := by
  unfold finish
  cases x.path with
  | caller => rfl
  | callback =>
    simp only [x.notifier.notify_zero error hx, reports, Action.failing, Action.calls]

/-- No level holds anything yet when the requests themselves come to an error. -/
theorem gathered_error {x : Execution ρ} {processors : List (Processor ρ)}
    (hx : x.notifier = .ofLevels x.notifier.handler processors.length)
    (error : OperationError) :
    (x.gathered processors (.error error)).2 =
      Action.failing x.path x.notifier.handler error := by
  obtain ⟨hr, hf⟩ := Notifier.releaseAll_ofLevels x.notifier.handler processors.length
  rw [← hx] at hr hf
  have he := finish_error
    { x with notifier := (x.notifier.releaseAll processors.length).1 } error hf
  simp only [Notifier.releaseAll_handler] at he
  simp only [gathered, fail, hr, he]
  rfl

/-- Without a processor the batch reports to the handler itself. -/
theorem gathered_ok_nil {x : Execution ρ} (hx : x.notifier.fired = false) (output : Output ρ) :
    (x.gathered [] (.ok output)).2 =
      Action.closing x.path x.notifier.handler output.failure? (.ok output) := by
  cases hf : output.failure? with
  | none =>
    simp only [gathered, hf, proceed, finish_ok, reports, List.map_nil, List.nil_append,
      Action.closing, Action.calls, Report.calls_none]
  | some error =>
    simp only [gathered, hf, List.length_nil, x.notifier.notify_zero error hx, proceed,
      finish_ok, reports, Action.closing, Action.calls, Report.calls_none, List.map_nil,
      List.nil_append]

/-- With a processor the batch hands its failure to the level of the innermost one. -/
theorem gathered_ok_cons {x : Execution ρ} {processor : Processor ρ}
    {rest : List (Processor ρ)}
    (hx : x.notifier = .ofLevels x.notifier.handler (rest.length + 1)) (output : Output ρ) :
    (x.gathered (processor :: rest) (.ok output)).2 = [.process processor output] ∧
      (x.gathered (processor :: rest) (.ok output)).1.notifier.Parks rest.length
        output.failure? := by
  cases hf : output.failure? with
  | none =>
    simp only [gathered, hf, proceed, reports, List.map_nil, List.nil_append, true_and]
    rw [hx]
    exact Notifier.parks_ofLevels _ _
  | some error =>
    have hp := Notifier.notify_ofLevels x.notifier.handler error rest.length
    rw [← hx] at hp
    simp only [gathered, hf, proceed, List.length_cons]
    exact ⟨rfl, hp⟩

/-- Only the error of the processor is reported, whatever was kept while it ran. -/
theorem processed_error {x : Execution ρ} {processors : List (Processor ρ)}
    {failure? : Option OperationError} (hx : x.notifier.Parks processors.length failure?)
    (error : OperationError) :
    (x.processed processors (.error error)).2 =
      Action.calls x.notifier.handler (some error) := by
  obtain ⟨hr, hf⟩ := hx.notify_releaseAll error
  have he := finish_error_of_fired
    { x with notifier :=
        ((x.notifier.notify error processors.length).1.releaseAll processors.length).1 } error hf
  simp only [processed, fail, he, List.append_nil, Action.calls]
  rw [← hr]
  exact (List.map_append ..).symm

/-- After the last processor what was kept is reported. -/
theorem processed_ok_nil {x : Execution ρ} {failure? : Option OperationError}
    (hx : x.notifier.Parks 0 failure?) (output : Output ρ) :
    (x.processed [] (.ok output)).2 =
      Action.closing x.path x.notifier.handler failure? (.ok output) := by
  simp only [processed, List.length_nil, hx.release_zero, proceed, finish_ok, reports,
    Action.closing, Action.calls, Report.calls_none, List.map_nil, List.nil_append]

/-- After any other one it goes to the level below. -/
theorem processed_ok_cons {x : Execution ρ} {processor : Processor ρ}
    {rest : List (Processor ρ)} {failure? : Option OperationError}
    (hx : x.notifier.Parks (rest.length + 1) failure?) (output : Output ρ) :
    (x.processed (processor :: rest) (.ok output)).2 = [.process processor output] ∧
      (x.processed (processor :: rest) (.ok output)).1.notifier.Parks rest.length failure? := by
  obtain ⟨hr, hp⟩ := hx.release_succ
  simp only [processed, List.length_cons, hr, proceed]
  exact ⟨rfl, hp⟩

end Execution
end CqlOperations
