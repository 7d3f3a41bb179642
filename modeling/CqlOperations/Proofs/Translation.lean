import CqlOperations.Proofs.Paths
import CqlOperations.Proofs.Reports
import CqlOperations.Proofs.Terms

/-! The failure of a request is translated once, where it comes in, and reaches everyone who is told
of it in that form: the caller, the slots of a batch, the processors, the failure handler. -/
namespace CqlOperations

variable {σ ρ : Type}

/-- What a translator makes of failures, and of errors that may be one. -/
structure Translator.Lawful (t : Translator) : Prop where
  recognised : ∀ failure error, t.recognise? failure = some error →
    t.translateFailure failure = .dataAccess error
  unrecognised : ∀ failure, t.recognise? failure = none →
    t.translateFailure failure = .backend failure
  untranslated : ∀ failure, t.translate (.backend failure) = t.translateFailure failure
  others : ∀ error, error.backend? = none → t.translate error = error
  idempotent : ∀ error, t.translate (t.translate error) = t.translate error
  /-- An error that was delivered for a failed request is not translated any further. -/
  delivered : ∀ failure, t.translate (t.translateFailure failure) = t.translateFailure failure

/-- Ends of a request that `t` does not tell apart. -/
inductive Resolution.Alike (t : Translator) : Resolution ρ → Resolution ρ → Prop where
  | same (r : Resolution ρ) : Alike t r r
  | failed {failure other : Backend.Failure}
      (h : t.translateFailure failure = t.translateFailure other) :
      Alike t (.failed failure) (.failed other)

/-- Environments that differ in failures only, and in none that `t` tells apart. -/
structure Environment.Alike (t : Translator) (env other : Environment ρ) : Prop where
  outcome : ∀ i, Resolution.Alike t (env.outcome i) (other.outcome i)
  discipline : ∀ i, env.discipline i = other.discipline i

/-- Whoever looks for a result, or waits for it in whatever way, finds `r`. -/
structure Submission.Gives (s : Submission ρ) (env : Environment ρ) (r : Result ρ) : Prop where
  found : ∀ moves found, ((Course.start s).run env moves).execution.result? = some found →
    found = r
  yields : s.LeadsTo env fun c => s.Yields c r
  /-- A wait is over when the result is there or its time is up. -/
  waited : ∀ (limit : Duration) (moves more : List Move),
    (s.handle.waitWithin limit
        (fun _ => ((Course.start s).run env moves).execution.result?)
        (fun _ => ((Course.start s).run env (moves ++ more)).execution.result?)).2 =
      if s.handle.isFinished
        (fun _ => ((Course.start s).run env (moves ++ more)).execution.result?)
      then r else .error (.waitTimeout limit)

/-- The only request failed, and `error` is all that anyone hears of it. -/
structure Submission.Refused (s : Submission ρ) (env : Environment ρ) (path : Path)
    (handler : Option Handler) (error : OperationError) : Prop where
  gives : s.Gives env (.error error)
  /-- No processor works on it, and nothing is delivered. -/
  handed : ∀ moves,
    ((Course.start s).run env moves).handed <+: Action.failing path handler error
  told : env.RunsAll → s.LeadsTo env fun c => c.deliveries = [] ∧
    (path = .caller → c.reports = []) ∧
    (path = .callback → c.reports = Report.calls handler (some error))

/-- The failures of `n` requests in their batch, and the error that is made of the whole. -/
structure BatchResult.Records (b : BatchResult ρ) (t : Translator) (outcome : Nat → Resolution ρ)
    (n : Nat) : Prop where
  failed : ∀ i < n, ∀ failure, outcome i = .failed failure →
    b.slots[i]? = some (.failed (t.translateFailure failure))
  /-- Other than failures only panics are in failed slots. -/
  origin : ∀ i error, b.slots[i]? = some (.failed error) →
    (∃ failure, outcome i = .failed failure ∧ error = t.translateFailure failure) ∨
      ∃ message, outcome i = .panicked message ∧ error = .panicked message
  collected : ∀ error, b.toExcept = .error error ↔ b.FirstWithout error
  /-- A failure after answers is the error of the batch, and the one that is reported. -/
  first : ∀ i < n, ∀ failure, outcome i = .failed failure →
    (∀ j < i, ∃ reply, outcome j = .answered reply) →
      b.toExcept = .error (t.translateFailure failure) ∧
        b.FirstFailed (t.translateFailure failure)

/-- The batch `b` and the failures in it as they are handed on, through any processors. -/
structure Submission.Carries (s : Submission ρ) (env : Environment ρ) (handler : Option Handler)
    (processors : List (Processor ρ)) (b : BatchResult ρ) : Prop where
  alone : processors = [] → s.Gives env (.ok (.batch b)) ∧ ∀ moves output,
    .deliver output ∈ ((Course.start s).run env moves).handed → output = .batch b
  processed : ∀ p rest, processors = p :: rest → ∀ moves,
    ((Course.start s).run env moves).handed = [] ∨
      ∃ more, ((Course.start s).run env moves).handed = .process p (.batch b) :: more
  /-- The handler is called for a failed slot or for the error of a processor, and nothing else. -/
  reported : ∀ moves r, r ∈ ((Course.start s).run env moves).announced →
    handler = some r.handler ∧ (b.FirstFailed r.error ∨
      (Account.processing env.discipline 0 processors (.batch b)).ending =
        .returned (.error r.error))
  told : env.RunsAll → ∀ made error,
    Processor.through processors (.batch b) = .returned (.ok made) → b.FirstFailed error →
      s.LeadsTo env fun c => c.reports = Report.calls handler (some error)

/-- What becomes of the failures of the requests of `o`, which was submitted as `s`. -/
structure Operation.Translates (o : Operation σ ρ) (path : Path) (s : Submission ρ)
    (env : Environment ρ) : Prop where
  /-- Nothing that happens depends on a failure but through its translation. -/
  blind : ∀ other, env.Alike o.translator other → ∀ moves,
    (Course.start s).run other moves = (Course.start s).run env moves
  single : ∀ creator failure, o.base = .single creator → env.outcome 0 = .failed failure →
    s.Refused env path o.options.handler (o.translator.translateFailure failure)
  batch : ∀ type creators, o.base = .fanOut type creators → ∃ b : BatchResult ρ,
    b.Records o.translator env.outcome s.statements.length ∧
      s.Carries env o.options.handler o.processors b

namespace Translator

theorem translateFailure_recognised {t : Translator} {failure : Backend.Failure}
    {error : DataAccessError} (h : t.recognise? failure = some error) :
    t.translateFailure failure = .dataAccess error := by
  rw [translateFailure, h]

theorem translateFailure_unrecognised {t : Translator} {failure : Backend.Failure}
    (h : t.recognise? failure = none) : t.translateFailure failure = .backend failure := by
  rw [translateFailure, h]

/-- A failure that comes in late is translated like one that comes in with its request. -/
theorem translate_backend (t : Translator) (failure : Backend.Failure) :
    t.translate (.backend failure) = t.translateFailure failure := by
  cases h : t.recognise? failure with
  | some error => rw [translate, h, translateFailure_recognised h]
  | none => rw [translate, h, translateFailure_unrecognised h]

theorem translate_translateFailure (t : Translator) (failure : Backend.Failure) :
    t.translate (t.translateFailure failure) = t.translateFailure failure := by
  cases h : t.recognise? failure with
  | some error => rw [translateFailure_recognised h]; rfl
  | none =>
    -- an unrecognised failure is looked at again, and is still not recognised
    calc
      t.translate (t.translateFailure failure) = t.translate (.backend failure) := by
        rw [translateFailure_unrecognised h]
      _ = t.translateFailure failure := t.translate_backend failure

theorem translate_of_backend?_eq_none (t : Translator) {error : OperationError}
    (h : error.backend? = none) : t.translate error = error := by
  cases error with
  | backend failure => cases h
  | _ => rfl

theorem translate_translate (t : Translator) (error : OperationError) :
    t.translate (t.translate error) = t.translate error := by
  cases hb : error.backend? with
  | none => rw [t.translate_of_backend?_eq_none hb, t.translate_of_backend?_eq_none hb]
  | some failure =>
    cases error with
    | backend failure =>
      rw [translate_backend]
      exact t.translate_translateFailure failure
    | _ => cases hb

theorem lawful (t : Translator) : t.Lawful where
  recognised _ _ h := translateFailure_recognised h
  unrecognised _ h := translateFailure_unrecognised h
  untranslated := t.translate_backend
  others _ h := t.translate_of_backend?_eq_none h
  idempotent error := t.translate_translate error
  delivered failure := t.translate_translateFailure failure

end Translator

/-! Failures that the translator does not tell apart leave no trace of the difference. -/

theorem Execution.resolve_congr (x : Execution ρ) (request : Nat) {r other : Resolution ρ}
    (h : Resolution.Alike x.translator r other) : x.resolve request r = x.resolve request other := by
  cases h with
  | same => rfl
  | failed h =>
    unfold resolve
    split
    next => simp only [h]
    next => simp only [Slot.ofResolution, h]
    next => rfl

namespace Course

variable {env other : Environment ρ} {c : Course ρ}

theorem finish_congr (c : Course ρ) (position : Nat) {r r' : Resolution ρ}
    (h : Resolution.Alike c.execution.translator r r') :
    c.finish position r = c.finish position r' := by
  simp only [finish, tell, Execution.handle, c.execution.resolve_congr position h]

theorem resolve_of_alike (h : env.Alike c.execution.translator other) (position : Nat) :
    c.resolve env position = c.resolve other position := by
  have ho := h.outcome position
  unfold resolve
  generalize env.outcome position = r at ho ⊢
  generalize other.outcome position = r' at ho ⊢
  cases ho with
  | same => rfl
  | failed he =>
    cases c.requests[position]? with
    | none => rfl
    | some p =>
      cases p with
      | sent => exact c.finish_congr position (.failed he)
      | spawned => rfl
      | ended => rfl

theorem step_of_alike (h : env.Alike c.execution.translator other) (move : Move) :
    c.step env move = c.step other move := by
  cases move with
  | poll => exact poll_congr c fun i _ => h.discipline i
  | send position => rfl
  | resolve position => exact resolve_of_alike h position
  | run index => rfl

/-- The translator stays the same, and with it what it does not tell apart. -/
theorem run_of_alike (h : env.Alike c.execution.translator other) (moves : List Move) :
    c.run env moves = c.run other moves := by
  induction moves generalizing c with
  | nil => rfl
  | cons move rest ih =>
    have ht : (c.step env move).execution.translator = c.execution.translator :=
      step_execution (P := fun x => x.translator = c.execution.translator)
        (fun x signal hx => (congrArg Terms.translator (x.terms_handle signal)).trans hx)
        env rfl move
    rw [run_cons, run_cons, ← step_of_alike h move]
    exact ih (ht ▸ h)

end Course

theorem BatchResult.failed_ofOutcomes (t : Translator) {outcome : Nat → Resolution ρ} {n i : Nat}
    (hi : i < n) {failure : Backend.Failure} (ho : outcome i = .failed failure) :
    (ofOutcomes t outcome n).slots[i]? = some (.failed (t.translateFailure failure)) := by
  rw [getElem?_ofOutcomes t outcome hi, ho]
  rfl

theorem BatchResult.ok_ofOutcomes (t : Translator) {outcome : Nat → Resolution ρ} {n i : Nat}
    (hi : i < n) {reply : ρ} (ho : outcome i = .answered reply) :
    (ofOutcomes t outcome n).slots[i]? = some (.ok reply) := by
  rw [getElem?_ofOutcomes t outcome hi, ho]
  rfl

/-- The batch of requests records their failures. -/
theorem BatchResult.records_ofOutcomes (t : Translator) (outcome : Nat → Resolution ρ) (n : Nat) :
    (ofOutcomes t outcome n).Records t outcome n where
  failed i hi failure ho := failed_ofOutcomes t hi ho
  origin i error he := by
    have hslot := ofResolution_of_getElem? he
    cases ho : outcome i with
    | answered reply => rw [ho] at hslot; cases hslot
    | failed failure => rw [ho] at hslot; cases hslot; exact .inl ⟨failure, rfl, rfl⟩
    | panicked message => rw [ho] at hslot; cases hslot; exact .inr ⟨message, rfl, rfl⟩
    | cancelled => rw [ho] at hslot; cases hslot
  collected error := toExcept_eq_error
  first i hi failure ho ha := by
    have hbefore : ∀ j < i, ∃ reply, (ofOutcomes t outcome n).slots[j]? = some (.ok reply) := by
      intro j hj
      obtain ⟨reply, hr⟩ := ha j hj
      exact ⟨reply, ok_ofOutcomes t (Nat.lt_trans hj hi) hr⟩
    have hslot := failed_ofOutcomes t hi ho
    constructor
    · exact toExcept_eq_error.mpr ⟨i, _, hslot, rfl, hbefore⟩
    · refine ⟨i, hslot, fun j hj error he => ?_⟩
      obtain ⟨reply, hr⟩ := hbefore j hj
      rw [hr] at he
      cases he

namespace Operation.IsStack

variable {o : Operation σ ρ} {env : Environment ρ} {path : Path} {state : σ} {s : Submission ρ}

theorem gives (h : o.IsStack) (hs : (o.submit path state).1 = .ok s)
    {gathered : Outcome (Result ρ)}
    (hg : o.base.gathered? o.translator env.outcome s.statements.length = some gathered)
    {r : Result ρ}
    (he : (Account.ofGathered env.discipline path o.options.handler o.processors
      gathered).ending = .returned r) : s.Gives env r where
  found _ _ hf := h.result?_eq hs hg he hf
  yields := (h.leadsTo_ending hs hg).mono fun c hc => by
    refine h.yields_of_ended hs hg he ?_
    rw [hc.2, he]
    rfl
  waited := h.waitWithin_eq hs hg he

theorem refused (h : o.IsStack) (hs : (o.submit path state).1 = .ok s) {creator : Creator σ}
    (hb : o.base = .single creator) {failure : Backend.Failure}
    (hf : env.outcome 0 = .failed failure) :
    s.Refused env path o.options.handler (o.translator.translateFailure failure) := by
  have hg : o.base.gathered? o.translator env.outcome s.statements.length =
      some (.returned (.error (o.translator.translateFailure failure))) := by
    simp only [hb, Base.gathered?, hf, Resolution.alone?]
  refine ⟨h.gives hs hg rfl, h.handed_isPrefix hs hg, fun hr => ?_⟩
  obtain ⟨hrep, hdel, -⟩ := Account.tallies_ofGathered_error path o.options.handler
    env.discipline o.processors (o.translator.translateFailure failure)
  refine (h.leadsTo hr hs hg).mono fun c hc => ⟨hc.deliveries.trans hdel, ?_, ?_⟩
  · rintro rfl
    exact hc.reports.trans hrep
  · rintro rfl
    exact hc.reports.trans hrep

/-- The calls that were handed over are those of the account, or not all of them yet. -/
theorem announced_isPrefix (h : o.IsStack) (hs : (o.submit path state).1 = .ok s)
    {gathered : Outcome (Result ρ)}
    (hg : o.base.gathered? o.translator env.outcome s.statements.length = some gathered)
    (moves : List Move) :
    ((Course.start s).run env moves).announced <+:
      (Account.ofGathered env.discipline path o.options.handler o.processors gathered).reports :=
  (h.handed_isPrefix hs hg moves).filterMap Action.report?

theorem carries (h : o.IsStack) (hs : (o.submit path state).1 = .ok s) {b : BatchResult ρ}
    (hg : o.base.gathered? o.translator env.outcome s.statements.length =
      some (.returned (.ok (.batch b)))) :
    s.Carries env o.options.handler o.processors b where
  alone hp := by
    refine ⟨h.gives hs hg (by rw [hp]; rfl), fun moves output ho => ?_⟩
    have hm := (h.handed_isPrefix hs hg moves).subset ho
    rw [hp] at hm
    change _ ∈ Action.closing path o.options.handler b.firstFailure? (.ok (.batch b)) at hm
    rcases List.mem_append.mp hm with hm | hm
    · obtain ⟨r, -, hr⟩ := List.mem_map.mp hm
      cases hr
    · cases path with
      | caller => cases hm
      | callback =>
        cases List.mem_singleton.mp hm
        rfl
  processed p rest hp moves := by
    have hprefix := h.handed_isPrefix hs hg moves
    rw [hp] at hprefix
    obtain ⟨more, hmore⟩ :=
      Account.exists_tasks_processing_cons env.discipline 0 p rest (.batch b)
    simp only [Account.ofGathered, hmore, List.cons_append] at hprefix
    rcases List.prefix_cons_iff.mp hprefix with hnil | ⟨handed, hcons, -⟩
    · exact .inl hnil
    · exact .inr ⟨handed, hcons⟩
  reported moves r hr := by
    have hm := (h.announced_isPrefix hs hg moves).subset hr
    rw [Account.reports_ofGathered_ok] at hm
    cases he : (Account.processing env.discipline 0 o.processors (.batch b)).ending with
    | panicked message =>
      rw [he] at hm
      cases hm
    | returned result =>
      rw [he] at hm
      obtain ⟨hhandler, hblame⟩ := Report.mem_calls.mp hm
      refine ⟨hhandler, ?_⟩
      cases result with
      | error error =>
        cases hblame
        exact .inr rfl
      | ok made => exact .inl (BatchResult.firstFailure?_eq_some.mp hblame)
  told hr made error ht hb := by
    have he := Account.ending_processing_ok hr 0 ht
    obtain ⟨hrep, -⟩ := Account.tallies_ofGathered_ok path o.options.handler hr he
    refine (h.leadsTo hr hs hg).mono fun c hc => hc.reports.trans (hrep.trans ?_)
    simp only [Account.blame, Output.failure?, BatchResult.firstFailure?_eq_some.mpr hb]

/-- The failures of a stack reach everyone in the form that its translator gives them, whatever the
executor does with the tasks and in whatever order things happen. To translate them once more
changes nothing. -/
theorem translates (h : o.IsStack) (path : Path) (state : σ) :
    o.translator.Lawful ∧ ∀ s, (o.submit path state).1 = .ok s → ∀ env : Environment ρ,
      o.Translates path s env := by
  refine ⟨o.translator.lawful, fun s hs env => ⟨fun other hother moves => ?_, ?_, ?_⟩⟩
  · have ht : (Course.start s).execution.translator = o.translator :=
      congrArg Terms.translator (terms_of_submit hs)
    exact (Course.run_of_alike (ht ▸ hother) moves).symm
  · intro creator failure hb hf
    exact h.refused hs hb hf
  · intro type creators hb
    have hg : o.base.gathered? o.translator env.outcome s.statements.length = some (.returned
        (.ok (.batch (.ofOutcomes o.translator env.outcome s.statements.length)))) := by
      rw [hb, Base.gathered?]
    exact ⟨_, BatchResult.records_ofOutcomes .., h.carries hs hg⟩

end Operation.IsStack

/-- What the first processor gets has the failure of the second request in its slot, translated, and
comes to that error as a whole. -/
theorem translates_rejectedPair :
    ∃ (s : Submission Nat) (b : BatchResult Nat) (error : OperationError),
      Operation.rejectedPair.submit .callback () = (.ok s, [], ()) ∧
      error = .dataAccess (.connectionFailure (Backend.Failure.emptyPlan).message) ∧
      b.slots[1]? = some (.failed error) ∧ b.toExcept = .error error ∧
      Translator.standard.translate error = error ∧
      ∀ moves, ((Course.start s).run .secondFails moves).handed = [] ∨
        ∃ more, ((Course.start s).run .secondFails moves).handed =
          .process .keeping (.batch b) :: more := by
  obtain ⟨hlaw, hall⟩ := Operation.isStack_rejectedPair.translates .callback ()
  obtain ⟨b, hrecords, hcarries⟩ := (hall _ rfl .secondFails).batch _ _ rfl
  have hanswered : ∀ j < 1, ∃ reply, Environment.secondFails.outcome j = .answered reply := by
    intro j hj
    obtain rfl : j = 0 := by omega
    exact ⟨0, rfl⟩
  refine ⟨_, b, _, rfl, rfl, hrecords.failed 1 (by decide) .emptyPlan rfl,
    (hrecords.first 1 (by decide) .emptyPlan rfl hanswered).1, hlaw.delivered .emptyPlan,
    hcarries.processed _ _ rfl⟩

end CqlOperations
