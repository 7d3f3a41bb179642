import CqlOperations.Proofs.Callback

/-! What becomes of the failed slots of a batch. By the time its handle resolves the handler has
been handed the first failure, or the failure of the processor that came in its place; a panic that
takes the task of the execution along takes the failure with it. -/
namespace CqlOperations

variable {σ ρ : Type}

/-- The calls of the failure handler that the executor was handed so far, run or not. -/
def Course.announced (c : Course ρ) : List Report :=
  c.handed.filterMap Action.report?

/-- What the handle of the caller resolves to, once it does. -/
def Submission.resolved? (s : Submission ρ) (c : Course ρ) : Option (Result ρ) :=
  (s.handle.poll fun _ => c.execution.result?).2

/-- What joining a task that ends so gives. -/
def Outcome.joined : Outcome (Result ρ) → Result ρ
  | .returned result => result
  | .panicked message => .error (.panicked message)

theorem Execution.result?_of_ending {x : Execution ρ} {ending : Outcome (Result ρ)}
    (h : x.stage = .ofEnding ending) : x.result? = some ending.joined := by
  unfold Execution.result?
  rw [h]
  cases ending with
  | returned r => rfl
  | panicked message => rfl

/-- The law of a batch whose first failed slot has the error `failure`, of which `processors` make
`r`. The first processor that does not succeed decides, and the discipline of its task. -/
structure SlotLaw (handler : Handler) (d : Nat → Discipline) (processors : List (Processor ρ))
    (b : BatchResult ρ) (failure : OperationError) (announced : List Report) (r : Result ρ) :
    Prop where
  passed : ∀ made, Processor.through processors (.batch b) = .returned (.ok made) →
    r = .ok made ∧ announced = [⟨handler, failure⟩]
  refused : ∀ before p input error, Processor.Stops processors (.batch b) before p input →
    p.run input = .returned (.error error) →
    r = .error error ∧ announced = [⟨handler, error⟩]
  /-- Whoever runs the task has the panic, the execution only that nothing came of it. -/
  dropped : ∀ before p input message, Processor.Stops processors (.batch b) before p input →
    p.run input = .panicked message → d before.length ≠ .runs →
    r = .error .taskDropped ∧ announced = [⟨handler, .taskDropped⟩]
  /-- On the spot the panic ends the execution, and what was held is never let go of. -/
  lost : ∀ before p input message, Processor.Stops processors (.batch b) before p input →
    p.run input = .panicked message → d before.length = .runs →
    r = .error (.panicked message) ∧ announced = []

namespace Account

variable {d : Nat → Discipline} {handler : Handler} {processors : List (Processor ρ)}
  {b : BatchResult ρ} {failure : OperationError} {r : Result ρ}

/-- A batch with a failed slot that comes to a result has one call of the handler in its account. -/
theorem reports_of_returned (hd : ∀ i, d i ≠ .drops) (hb : b.FirstFailed failure)
    (he : (processing d 0 processors (.batch b)).ending = .returned r) :
    (ofGathered d .caller (some handler) processors (.returned (.ok (.batch b)))).reports =
      [⟨handler, match r with | .ok _ => failure | .error error => error⟩] := by
  have hf : (Output.batch b).failure? = some failure := BatchResult.firstFailure?_eq_some.mpr hb
  obtain ⟨hrep, -⟩ := tallies_ofGathered_ok .caller (some handler) hd he
  rw [hrep]
  cases r with
  | ok made =>
    simp only [blame, hf]
    rfl
  | error error => rfl

/-- What joining the end of the account gives obeys the law. -/
theorem slotLaw (hd : ∀ i, d i ≠ .drops) (hb : b.FirstFailed failure)
    (hr : r = (processing d 0 processors (.batch b)).ending.joined) :
    SlotLaw handler d processors b failure
      (ofGathered d .caller (some handler) processors (.returned (.ok (.batch b)))).reports r where
  passed made ht := by
    have he := ending_processing_ok hd 0 ht
    rw [he] at hr
    refine ⟨hr, ?_⟩
    rw [reports_of_returned hd hb he]
  refused before p input error hst hp := by
    have he := (ending_processing_stops hd 0 hst).trans (Processor.ending_of_returned (hd _) hp)
    rw [he] at hr
    refine ⟨hr, ?_⟩
    rw [reports_of_returned hd hb he]
  dropped before p input message hst hp hn := by
    have he := ending_processing_stops hd 0 hst
    rw [Nat.zero_add, Processor.ending_of_panicked (hd _) hp, if_neg hn] at he
    rw [he] at hr
    refine ⟨hr, ?_⟩
    rw [reports_of_returned hd hb he]
  lost before p input message hst hp hruns := by
    have he := ending_processing_stops hd 0 hst
    rw [Nat.zero_add, Processor.ending_of_panicked (hd _) hp, if_pos hruns] at he
    rw [he] at hr
    obtain ⟨hrep, -⟩ := tallies_ofGathered_unwound .caller (some handler) hd he
    exact ⟨hr, hrep⟩

/-- The one call is missing only where a panic ends the account. -/
theorem length_reports_eq_one_iff (hd : ∀ i, d i ≠ .drops) (hb : b.FirstFailed failure) :
    (ofGathered d .caller (some handler) processors (.returned (.ok (.batch b)))).reports.length =
        1 ↔
      ∀ message, (ofGathered d .caller (some handler) processors
        (.returned (.ok (.batch b)))).ending ≠ .panicked message := by
  change _ ↔ ∀ message, (processing d 0 processors (.batch b)).ending ≠ .panicked message
  cases he : (processing d 0 processors (.batch b)).ending with
  | returned r => simp [reports_of_returned hd hb he]
  | panicked message =>
    obtain ⟨hrep, -⟩ := tallies_ofGathered_unwound .caller (some handler) hd he
    simp [hrep]

end Account

/-- A batch with a failed slot has statements, so its handle waits for a task. -/
theorem Operation.IsStack.resolved?_eq {o : Operation σ ρ} (h : o.IsStack) {type : BatchType}
    {creators : List (Creator σ)} (hbase : o.base = .fanOut type creators) {path : Path}
    {state : σ} {s : Submission ρ} (hs : (o.submit path state).1 = .ok s)
    (hn : s.statements ≠ []) (c : Course ρ) : s.resolved? c = c.execution.result? := by
  obtain ⟨statements, -, rfl⟩ := h.submit_ok hs
  have hempty : statements.isEmpty = false := by
    cases statements with
    | nil => exact absurd rfl hn
    | cons => rfl
  have hknown : (o.submission path statements).execution.known? = none := by
    simp [submission, gathering, hbase, hempty, Execution.known?]
  unfold Submission.resolved? Submission.handle Pending.ofExecution
  rw [hknown]
  cases c.execution.result? with
  | none => simp [Pending.poll]
  | some r => simp [Pending.poll]

namespace Operation.IsStack

variable {o : Operation σ ρ} {env : Environment ρ} {state : σ} {s : Submission ρ}

/-- A batch with a failure handler and a failed slot, under any transforms, by an executor that runs
every task: its handle resolves, and whenever it has, the handler was handed one call, with the
failure of the first slot or of the processor that took its place. Only a processor that panics on
the task of the execution leaves the handler without its call. -/
theorem failed_slots (h : o.IsStack) {type : BatchType} {creators : List (Creator σ)}
    (hbase : o.base = .fanOut type creators) {handler : Handler}
    (hh : o.options.handler = some handler) (hr : env.RunsAll)
    (hs : (o.submit .caller state).1 = .ok s) {b : BatchResult ρ}
    (hb : b = .ofOutcomes o.translator env.outcome s.statements.length)
    {failure : OperationError} (hf : b.FirstFailed failure) :
    s.LeadsTo env (fun c => ∃ r, s.resolved? c = some r) ∧
      ∀ moves r, s.resolved? ((Course.start s).run env moves) = some r →
        SlotLaw handler env.discipline o.processors b failure
            ((Course.start s).run env moves).announced r ∧
          (((Course.start s).run env moves).announced.length = 1 ↔
            ∀ message, ¬ o.Unwinds env s.statements.length message) := by
  have hg : o.base.gathered? o.translator env.outcome s.statements.length =
      some (.returned (.ok (.batch b))) := by rw [hbase, hb, Base.gathered?]
  have hn : s.statements ≠ [] := by
    intro hnil
    obtain ⟨i, hi, -⟩ := hf
    rw [hb, hnil] at hi
    simp [BatchResult.ofOutcomes] at hi
  have hresolved := h.resolved?_eq hbase hs hn
  constructor
  · apply (h.leadsTo_ending hs hg).mono
    intro c hc
    rw [hresolved]
    exact Execution.exists_result? hc.2
  · intro moves r hres
    rw [hresolved] at hres
    obtain ⟨-, hstage, hhanded, -⟩ := (h.onTrack hs hg moves).of_result? hres
    obtain ⟨statements, -, rfl⟩ := h.submit_ok hs
    have hann : ((Course.start (o.submission .caller statements)).run env moves).announced =
        (Account.ofGathered env.discipline .caller (some handler) o.processors
          (.returned (.ok (.batch b)))).reports := by
      unfold Course.announced
      rw [hhanded, ← hh]
      rfl
    rw [hann]
    constructor
    · apply Account.slotLaw hr hf
      rw [Execution.result?_of_ending hstage] at hres
      exact (Option.some.inj hres).symm
    · rw [Account.length_reports_eq_one_iff hr hf]
      simp only [ne_eq, ending_eq_panicked_iff hr .caller (some handler) hg]

end Operation.IsStack

/-! The pair again, under a processor that panics, with every task run on the spot or later. -/

def Processor.panicking (message : String) : Processor ρ :=
  ⟨"panic", fun _ => .panicked message⟩

def Operation.panickingPair : Operation Unit Nat :=
  pair.transform (.panicking "boom")

def Environment.secondFailsWith (d : Discipline) : Environment Nat :=
  { secondFails with discipline := fun _ => d }

theorem Environment.runsAll_secondFailsWith {d : Discipline} (hd : d ≠ .drops) :
    (secondFailsWith d).RunsAll :=
  fun _ => hd

/-- On the spot the panic is all that is left, and no call tells of the slot that failed; later it
drops the task, and that is what the handler hears of. -/
theorem failed_slots_of_panickingPair :
    ∃ s, Operation.panickingPair.submit .caller () = (.ok s, [], ()) ∧
      (s.LeadsTo (.secondFailsWith .runs) fun c => ∃ r, s.resolved? c = some r) ∧
      (∃ moves, s.resolved? ((Course.start s).run (.secondFailsWith .runs) moves) =
          some (.error (.panicked "boom")) ∧
        ((Course.start s).run (.secondFailsWith .runs) moves).announced = []) ∧
      ∃ moves, s.resolved? ((Course.start s).run (.secondFailsWith .keeps) moves) =
          some (.error .taskDropped) ∧
        ((Course.start s).run (.secondFailsWith .keeps) moves).announced =
          [⟨⟨"log"⟩, .taskDropped⟩] := by
  have hstack : Operation.panickingPair.IsStack := Operation.isStack_pair.transform _
  have hfirst : (BatchResult.ofOutcomes Translator.standard
      Environment.secondFails.outcome 2).FirstFailed
        (Translator.standard.translateFailure .emptyPlan) := by
    refine ⟨1, rfl, fun j hj other ho => ?_⟩
    obtain rfl : j = 0 := by omega
    cases ho
  have hstops : Processor.Stops Operation.panickingPair.processors
      (.batch (.ofOutcomes .standard Environment.secondFails.outcome 2)) []
      (.panicking "boom") _ := ⟨⟨[], rfl⟩, rfl, nofun⟩
  have hs : (Operation.panickingPair.submit .caller ()).1 = .ok _ := rfl
  have hruns := hstack.failed_slots rfl rfl
    (Environment.runsAll_secondFailsWith (d := .runs) (by decide)) hs rfl hfirst
  have hkeeps := hstack.failed_slots rfl rfl
    (Environment.runsAll_secondFailsWith (d := .keeps) (by decide)) hs rfl hfirst
  refine ⟨_, rfl, hruns.1, ⟨[.send 0, .send 1, .resolve 1, .resolve 0, .poll], rfl, ?_⟩,
    ⟨[.send 0, .send 1, .resolve 1, .resolve 0, .poll, .run 0, .poll], rfl, ?_⟩⟩
  · exact ((hruns.2 _ _ rfl).1.lost _ _ _ "boom" hstops rfl rfl).2
  · exact ((hkeeps.2 _ _ rfl).1.dropped _ _ _ "boom" hstops rfl (by decide)).2

end CqlOperations
