import CqlOperations.Proofs.Chain
import CqlOperations.Proofs.Course.Tally

/-! What has happened in the end if the executor runs every task: which processors ran, what was
reported and what was delivered. -/
namespace CqlOperations

variable {ρ : Type}

namespace Processor

variable {p : Processor ρ} {d : Discipline} {input : Output ρ}

theorem ending_of_returned (hd : d ≠ .drops) {r : Result ρ} (hp : p.run input = .returned r) :
    p.ending d input = .returned r := by
  cases d with
  | runs => simp only [ending, hp]
  | keeps => simp only [ending, hp]
  | drops => exact absurd rfl hd

theorem ending_of_panicked (hd : d ≠ .drops) {message : String}
    (hp : p.run input = .panicked message) :
    p.ending d input =
      if d = .runs then .panicked message else .returned (.error .taskDropped) := by
  cases d with
  | runs => simp only [ending, hp, if_true]
  | keeps => simp only [ending, hp, reduceCtorEq, if_false]
  | drops => exact absurd rfl hd

theorem ending_ne_ok (hd : d ≠ .drops) (hs : ∀ made, p.run input ≠ .returned (.ok made))
    (made : Output ρ) : p.ending d input ≠ .returned (.ok made) := by
  cases hp : p.run input with
  | returned r =>
    rw [ending_of_returned hd hp, ← hp]
    exact hs made
  | panicked message =>
    rw [ending_of_panicked hd hp]
    split <;> simp

end Processor

namespace Account

variable {d : Nat → Discipline} {processors : List (Processor ρ)} {output : Output ρ}

theorem tasks_processing (hd : ∀ i, d i ≠ .drops) (i : Nat) (processors : List (Processor ρ))
    (output : Output ρ) :
    (processing d i processors output).tasks =
      (Processor.trail processors output).map fun step => .process step.1 step.2 := by
  induction processors generalizing i output with
  | nil => rfl
  | cons p rest ih =>
    rcases p.run_cases output with ⟨made, hp⟩ | hp
    · rw [processing_cons_ok (Processor.ending_of_returned (hd i) hp),
        Processor.trail_cons_ok hp, List.map_cons, ih]
    · rw [processing_cons_stop rfl (Processor.ending_ne_ok (hd i) hp),
        Processor.trail_cons_stop hp]
      rfl

theorem ending_processing_ok (hd : ∀ i, d i ≠ .drops) (i : Nat) {made : Output ρ}
    (h : Processor.through processors output = .returned (.ok made)) :
    (processing d i processors output).ending = .returned (.ok made) := by
  induction processors generalizing i output with
  | nil => exact h
  | cons p rest ih =>
    rcases p.run_cases output with ⟨next, hp⟩ | hp
    · rw [processing_cons_ok (Processor.ending_of_returned (hd i) hp)]
      exact ih (i + 1) (Processor.through_cons_ok hp rest ▸ h)
    · rw [Processor.through_cons_stop hp] at h
      exact absurd h (hp made)

/-- The end comes with the first processor that does not succeed. -/
theorem ending_processing_stops (hd : ∀ i, d i ≠ .drops) (i : Nat)
    {before : List (Processor ρ)} {p : Processor ρ} {input : Output ρ}
    (h : Processor.Stops processors output before p input) :
    (processing d i processors output).ending = p.ending (d (i + before.length)) input := by
  obtain ⟨⟨after, rfl⟩, hr, hs⟩ := h
  induction before generalizing i output with
  | nil =>
    cases hr
    exact congrArg ending (processing_cons_stop rfl (Processor.ending_ne_ok (hd i) hs))
  | cons q rest ih =>
    rcases q.run_cases output with ⟨next, hq⟩ | hq
    · rw [Processor.through_cons_ok hq] at hr
      have hl : i + (q :: rest).length = i + 1 + rest.length := by
        rw [List.length_cons]
        omega
      rw [List.cons_append, processing_cons_ok (Processor.ending_of_returned (hd i) hq), hl]
      exact ih (i + 1) hr
    · rw [Processor.through_cons_stop hq] at hr
      exact absurd hr (hq input)

/-- Processors that return come to the same whatever the executor does with their tasks. -/
theorem ending_processing_returned (hd : ∀ i, d i ≠ .drops) (i : Nat) {r : Result ρ}
    (h : Processor.through processors output = .returned r) :
    (processing d i processors output).ending = .returned r := by
  rcases Processor.through_cases processors output with
    ⟨made, ht⟩ | ⟨before, p, input, hst⟩
  · rw [ending_processing_ok hd i ht, ← h, ht]
  · rw [hst.through_eq] at h
    rw [ending_processing_stops hd i hst, Processor.ending_of_returned (hd _) h]

/-- The calls of the failure handler. -/
def reports (a : Account ρ) : List Report :=
  a.tasks.filterMap Action.report?

def deliveries (a : Account ρ) : List (Output ρ) :=
  a.tasks.filterMap Action.delivery?

def processes (a : Account ρ) : List (Processor ρ × Output ρ) :=
  a.tasks.filterMap Action.process?

/-- What is reported in the end: the error of a processor, or else a failure in the output that the
requests came to. -/
def blame (output : Output ρ) : Result ρ → Option OperationError
  | .error error => some error
  | .ok _ => output.failure?

/-- What a callback gets. -/
def deliveriesOf : Path → Result ρ → List (Output ρ)
  | .callback, .ok output => [output]
  | _, _ => []

variable (path : Path) (handler : Option Handler)

/-- Only a callback has no caller to tell the error. -/
theorem tallies_ofGathered_error (d : Nat → Discipline) (processors : List (Processor ρ))
    (error : OperationError) :
    (ofGathered d path handler processors (.returned (.error error))).reports =
        (match path with
          | .caller => []
          | .callback => Report.calls handler (some error)) ∧
      (ofGathered d path handler processors (.returned (.error error))).deliveries = [] ∧
      (ofGathered d path handler processors (.returned (.error error))).processes = [] := by
  simp only [reports, deliveries, processes, ofGathered, Action.failing]
  cases path <;>
    simp [Action.calls, Action.report?, Action.delivery?, Action.process?, Function.comp_def]

/-- The error of a processor is reported, or else what the requests gave a failure of. -/
theorem tallies_ofGathered_ok (hd : ∀ i, d i ≠ .drops) {r : Result ρ}
    (hr : (processing d 0 processors output).ending = .returned r) :
    (ofGathered d path handler processors (.returned (.ok output))).reports =
        Report.calls handler (blame output r) ∧
      (ofGathered d path handler processors (.returned (.ok output))).deliveries =
        deliveriesOf path r ∧
      (ofGathered d path handler processors (.returned (.ok output))).processes =
        Processor.trail processors output := by
  simp only [reports, deliveries, processes, ofGathered, tasks_processing hd, hr, closing,
    List.filterMap_append, List.filterMap_map]
  cases r <;> cases path <;>
    simp [blame, deliveriesOf, Action.closing, Action.calls, Action.report?, Action.delivery?,
      Action.process?, Function.comp_def]

/-- Nothing comes after a processor that takes the execution along. -/
theorem tallies_ofGathered_unwound (hd : ∀ i, d i ≠ .drops) {message : String}
    (hr : (processing d 0 processors output).ending = .panicked message) :
    (ofGathered d path handler processors (.returned (.ok output))).reports = [] ∧
      (ofGathered d path handler processors (.returned (.ok output))).deliveries = [] ∧
      (ofGathered d path handler processors (.returned (.ok output))).processes =
        Processor.trail processors output := by
  simp only [reports, deliveries, processes, ofGathered, tasks_processing hd, hr, closing,
    List.append_nil, List.filterMap_map]
  simp [Action.report?, Action.delivery?, Action.process?, Function.comp_def]

/-- The handler and the callback are called at most once. -/
theorem length_tallies_le (hd : ∀ i, d i ≠ .drops) (processors : List (Processor ρ))
    (gathered : Outcome (Result ρ)) :
    (ofGathered d path handler processors gathered).reports.length ≤ 1 ∧
      (ofGathered d path handler processors gathered).deliveries.length ≤ 1 := by
  cases gathered with
  | panicked message => exact ⟨Nat.zero_le 1, Nat.zero_le 1⟩
  | returned r =>
    cases r with
    | error error =>
      obtain ⟨hr, hdel, -⟩ := tallies_ofGathered_error path handler d processors error
      rw [hr, hdel]
      refine ⟨?_, Nat.zero_le 1⟩
      cases path with
      | caller => exact Nat.zero_le 1
      | callback => exact Report.length_calls_le _ _
    | ok output =>
      cases he : (processing d 0 processors output).ending with
      | panicked message =>
        obtain ⟨hr, hdel, -⟩ := tallies_ofGathered_unwound path handler hd he
        rw [hr, hdel]
        exact ⟨Nat.zero_le 1, Nat.zero_le 1⟩
      | returned r =>
        obtain ⟨hr, hdel, -⟩ := tallies_ofGathered_ok path handler hd he
        rw [hr, hdel]
        refine ⟨Report.length_calls_le _ _, ?_⟩
        cases path <;> cases r <;> simp [deliveriesOf]

end Account

namespace Course

/-- A course has come to the end of an account. -/
structure Completes (c : Course ρ) (a : Account ρ) : Prop where
  ended : c.AllEnded
  stage : c.execution.stage = .ofEnding a.ending
  reports : c.reports = a.reports
  deliveries : c.deliveries = a.deliveries
  processes : c.processes = a.processes

theorem eq_of_perm {α : Type} {first second : List α} (h : first.Perm second)
    (hl : second.length ≤ 1) : first = second := by
  cases second with
  | nil => exact h.eq_nil
  | cons a rest =>
    cases rest with
    | nil => exact List.perm_singleton.mp h
    | cons b more => simp at hl

variable {env : Environment ρ} {x₀ : Execution ρ} {processors : List (Processor ρ)}
  {gathered : Outcome (Result ρ)} {c : Course ρ}

/-- With its result a course has handed over all there is, and what it does not keep has run. -/
theorem OnTrack.completes_of_result? (h : OnTrack env x₀ processors gathered c) {r : Result ρ}
    (hx : c.execution.result? = some r) (hk : c.kept = []) (hr : env.RunsAll) (ht : c.Tallied) :
    c.Completes (account env x₀ processors gathered) := by
  obtain ⟨ho, hx, hh, hp⟩ := h.of_result? hx
  have hran : c.ran.Perm (account env x₀ processors gathered).tasks := by
    rw [← hh]
    unfold Tallied at ht
    rwa [hk, List.append_nil] at ht
  obtain ⟨hreports, hdeliveries⟩ := Account.length_tallies_le x₀.path x₀.notifier.handler hr
    processors gathered
  refine ⟨ho, hx, ?_, ?_, ?_⟩
  · exact eq_of_perm (hran.filterMap _) hreports
  · exact eq_of_perm (hran.filterMap _) hdeliveries
  · rw [hp, hr.taken, hh]
    rfl

theorem OnTrack.completes (h : OnTrack env x₀ processors gathered c) (hs : c.Settled env)
    (hl : c.requests.length = c.statements.length) (hr : env.RunsAll) (ht : c.Tallied) :
    c.Completes (account env x₀ processors gathered) := by
  obtain ⟨-, hx⟩ := h.of_settled hs hl
  obtain ⟨r, hx⟩ := Execution.exists_result? hx
  exact h.completes_of_result? hx hs.kept hr ht

end Course
end CqlOperations
