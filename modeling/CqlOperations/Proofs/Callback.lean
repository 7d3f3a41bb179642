import CqlOperations.Proofs.Stack

/-! What an execution with a callback comes to: its result reaches the callback, or else the failure
handler, unless a panic takes the task of the execution along. -/
namespace CqlOperations

variable {σ ρ : Type}

/-- A panic on the task of the execution itself: that of the request of a single statement, or of
the first processor that does not succeed, if it runs on the spot. The operation sent `n`
statements. -/
inductive Operation.Unwinds (o : Operation σ ρ) (env : Environment ρ) (n : Nat)
    (message : String) : Prop where
  | request {creator : Creator σ} (hb : o.base = .single creator)
      (hp : env.outcome 0 = .panicked message) : Unwinds o env n message
  | processor {output input : Output ρ} {before : List (Processor ρ)} {p : Processor ρ}
      (hg : o.base.gathered? o.translator env.outcome n = some (.returned (.ok output)))
      (hs : Processor.Stops o.processors output before p input)
      (hp : p.run input = .panicked message)
      (hd : env.discipline before.length = .runs) : Unwinds o env n message

namespace Account

variable {d : Nat → Discipline} {handler : Handler} {processors : List (Processor ρ)}
  {gathered : Outcome (Result ρ)}

/-- A result goes to the callback or to the handler. -/
theorem tallies_of_returned (hd : ∀ i, d i ≠ .drops) {r : Result ρ}
    (he : (ofGathered d .callback (some handler) processors gathered).ending = .returned r) :
    match r with
    | .ok output =>
      (ofGathered d .callback (some handler) processors gathered).deliveries = [output]
    | .error error =>
      (ofGathered d .callback (some handler) processors gathered).deliveries = [] ∧
        (ofGathered d .callback (some handler) processors gathered).reports =
          [⟨handler, error⟩] := by
  cases gathered with
  | panicked message => cases he
  | returned first =>
    cases first with
    | error error =>
      cases he
      obtain ⟨hrep, hdel, -⟩ := tallies_ofGathered_error .callback (some handler) d processors
        error
      exact ⟨hdel, hrep⟩
    | ok output =>
      obtain ⟨hrep, hdel, -⟩ := tallies_ofGathered_ok .callback (some handler) hd he
      cases r with
      | ok made => exact hdel
      | error error => exact ⟨hdel, hrep⟩

/-- A panic goes to neither. -/
theorem tallies_of_panicked (hd : ∀ i, d i ≠ .drops) {message : String}
    (he : (ofGathered d .callback (some handler) processors gathered).ending =
      .panicked message) :
    (ofGathered d .callback (some handler) processors gathered).deliveries = [] ∧
      (ofGathered d .callback (some handler) processors gathered).reports = [] := by
  cases gathered with
  | panicked other => exact ⟨rfl, rfl⟩
  | returned first =>
    cases first with
    | error error => cases he
    | ok output =>
      obtain ⟨hrep, hdel, -⟩ := tallies_ofGathered_unwound .callback (some handler) hd he
      exact ⟨hdel, hrep⟩

end Account

namespace Operation

variable {o : Operation σ ρ} {env : Environment ρ} {n : Nat} {gathered : Outcome (Result ρ)}

/-- The account of an operation ends in a panic exactly if one takes its task along. -/
theorem ending_eq_panicked_iff (hr : env.RunsAll) (path : Path) (handler : Option Handler)
    (hg : o.base.gathered? o.translator env.outcome n = some gathered) {message : String} :
    (Account.ofGathered env.discipline path handler o.processors gathered).ending =
      .panicked message ↔ o.Unwinds env n message := by
  constructor
  · intro he
    cases gathered with
    | panicked other =>
      cases he
      cases hb : o.base with
      | known statement result => simp [hb, Base.gathered?] at hg
      | fanOut type creators => simp [hb, Base.gathered?] at hg
      | single creator =>
        refine .request hb ?_
        simp only [hb, Base.gathered?] at hg
        cases ho : env.outcome 0 with
        | answered reply => simp [ho, Resolution.alone?] at hg
        | failed failure => simp [ho, Resolution.alone?] at hg
        | cancelled => simp [ho, Resolution.alone?] at hg
        | panicked other =>
          simp only [ho, Resolution.alone?, Option.some.injEq, Outcome.panicked.injEq] at hg
          rw [hg]
    | returned first =>
      cases first with
      | error error => cases he
      | ok output =>
        change (Account.processing env.discipline 0 o.processors output).ending = _ at he
        rcases Processor.through_cases o.processors output with
          ⟨made, ht⟩ | ⟨before, p, input, hst⟩
        · rw [Account.ending_processing_ok hr 0 ht] at he
          cases he
        · rw [Account.ending_processing_stops hr 0 hst, Nat.zero_add] at he
          cases hp : p.run input with
          | returned r =>
            rw [Processor.ending_of_returned (hr _) hp] at he
            cases he
          | panicked other =>
            rw [Processor.ending_of_panicked (hr _) hp] at he
            split at he
            next hd =>
              cases he
              exact .processor hg hst hp hd
            next => cases he
  · rintro (⟨hb, hp⟩ | ⟨hg', hst, hp, hd⟩)
    · rw [hb, Base.gathered?, hp] at hg
      cases hg
      rfl
    · rw [hg'] at hg
      cases hg
      have he := Account.ending_processing_stops hr 0 hst
      rw [Nat.zero_add, Processor.ending_of_panicked (hr _) hp, if_pos hd] at he
      exact he

/-- Requests that are not cancelled come to something. -/
theorem IsStack.gathered?_of_not_cancelled (h : o.IsStack) (hn : ∀ i, env.outcome i ≠ .cancelled)
    (n : Nat) : ∃ gathered, o.base.gathered? o.translator env.outcome n = some gathered := by
  cases hb : o.base with
  | known statement result => exact absurd hb (h.sends statement result)
  | fanOut type creators => exact ⟨_, rfl⟩
  | single creator =>
    simp only [Base.gathered?]
    cases ho : env.outcome 0 with
    | answered reply => exact ⟨_, rfl⟩
    | failed failure => exact ⟨_, rfl⟩
    | panicked message => exact ⟨_, rfl⟩
    | cancelled => exact absurd ho (hn 0)

section

variable {handler : Handler} {c : Course ρ}

/-- A result reaches the callback or the failure handler. -/
theorem told_of_completes (hr : env.RunsAll)
    (hg : o.base.gathered? o.translator env.outcome n = some gathered)
    (hc : c.Completes (.ofGathered env.discipline .callback (some handler) o.processors gathered))
    (hu : ∀ message, ¬ o.Unwinds env n message) :
    (∃ output, c.execution.stage = .ended (.ok output) ∧ c.deliveries = [output]) ∨
      ∃ error, c.execution.stage = .ended (.error error) ∧ c.deliveries = [] ∧
        c.reports = [⟨handler, error⟩] := by
  cases he : (Account.ofGathered env.discipline .callback (some handler) o.processors
    gathered).ending with
  | panicked message =>
    exact absurd ((ending_eq_panicked_iff hr .callback (some handler) hg).mp he) (hu message)
  | returned r =>
    have hx := hc.stage
    rw [he] at hx
    have ht := Account.tallies_of_returned hr he
    cases r with
    | ok output => exact .inl ⟨output, hx, hc.deliveries.trans ht⟩
    | error error => exact .inr ⟨error, hx, hc.deliveries.trans ht.1, hc.reports.trans ht.2⟩

/-- A panic that takes the task of the execution along reaches neither of them. -/
theorem lost_of_completes (hr : env.RunsAll)
    (hg : o.base.gathered? o.translator env.outcome n = some gathered)
    (hc : c.Completes (.ofGathered env.discipline .callback (some handler) o.processors gathered))
    {message : String} (hu : o.Unwinds env n message) :
    c.execution.result? = some (.error (.panicked message)) ∧ c.deliveries = [] ∧
      c.reports = [] := by
  have he := (ending_eq_panicked_iff hr .callback (some handler) hg).mpr hu
  have ht := Account.tallies_of_panicked hr he
  have hx := hc.stage
  rw [he] at hx
  exact ⟨by simp only [Execution.result?, hx, Stage.ofEnding], hc.deliveries.trans ht.1,
    hc.reports.trans ht.2⟩

end

/-- Where no panic takes the task of the execution along its result reaches the callback, once, or
else the failure handler, once. Where one does, neither hears of it; only joining the task would
tell. -/
theorem IsStack.callback_outcome (h : o.IsStack) {handler : Handler}
    (hh : o.options.handler = some handler) (hr : env.RunsAll)
    (hn : ∀ i, env.outcome i ≠ .cancelled) {state : σ} {s : Submission ρ}
    (hs : (o.submit .callback state).1 = .ok s) :
    s.LeadsTo env fun c =>
      ((∀ message, ¬ o.Unwinds env s.statements.length message) →
        (∃ output, c.execution.stage = .ended (.ok output) ∧ c.deliveries = [output]) ∨
          ∃ error, c.execution.stage = .ended (.error error) ∧ c.deliveries = [] ∧
            c.reports = [⟨handler, error⟩]) ∧
      ∀ message, o.Unwinds env s.statements.length message →
        c.execution.result? = some (.error (.panicked message)) ∧ c.deliveries = [] ∧
          c.reports = [] := by
  obtain ⟨gathered, hg⟩ := h.gathered?_of_not_cancelled hn s.statements.length
  have hl := h.leadsTo hr hs hg
  rw [hh] at hl
  exact hl.mono fun c hc =>
    ⟨told_of_completes hr hg hc, fun message hu => lost_of_completes hr hg hc hu⟩

end Operation

/-- A single statement whose request panics. -/
def Operation.lone : Operation Unit Nat :=
  { pair with base := .single (.constant (.ofText "statement")) }

def Environment.panicking : Environment Nat where
  outcome _ := .panicked "boom"
  discipline _ := .runs

theorem Operation.isStack_lone : lone.IsStack where
  sends _ _ h := by simp [lone] at h
  transforms _ hl := absurd hl List.not_mem_nil

/-- The panic of the request is told to whoever joins the task, and to nobody else. -/
theorem callback_outcome_of_panicking_request :
    ∃ s, Operation.lone.submit .callback () = (.ok s, [], ()) ∧
      s.LeadsTo .panicking fun c =>
        c.execution.result? = some (.error (.panicked "boom")) ∧ c.deliveries = [] ∧
          c.reports = [] := by
  have hs : (Operation.lone.submit .callback ()).1 =
      .ok (Operation.lone.submission .callback [.ofText "statement"]) := rfl
  refine ⟨_, rfl, (Operation.isStack_lone.callback_outcome rfl (fun _ h => ?_) (fun _ h => ?_)
    hs).mono fun _ hc => hc.2 "boom" (.request rfl rfl)⟩
  · cases h
  · cases h

end CqlOperations
