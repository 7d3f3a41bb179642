import CqlOperations.Proofs.FailedSlots

/-! The tasks that an execution hands to its executor, whatever the executor does with each of them:
the processors up to the first one that fails, a call of the failure handler, a delivery. They follow
from the outcome of the requests and from which tasks are dropped; a task that is kept for later
counts as one that is run at once. -/
namespace CqlOperations

variable {σ ρ : Type}

/-- What comes of the task of a processor. -/
inductive Processor.Gives (p : Processor ρ) (input : Output ρ) : Bool → Result ρ → Prop where
  | ran {r : Result ρ} (hr : p.run input = .returned r) : Gives p input false r
  | dropped : Gives p input true (.error .taskDropped)

/-- The processors that are handed over, the first one as task `i`, with what they are given, and the
result they come to. The next one is given what the one before made; none comes after an error. -/
inductive Processor.Steps (drops : Nat → Bool) : Nat → List (Processor ρ) → Output ρ →
    List (Processor ρ × Output ρ) → Result ρ → Prop where
  | done {i : Nat} {output : Output ρ} : Steps drops i [] output [] (.ok output)
  | fails {i : Nat} {p : Processor ρ} {rest : List (Processor ρ)} {input : Output ρ}
      {error : OperationError} (hg : p.Gives input (drops i) (.error error)) :
      Steps drops i (p :: rest) input [(p, input)] (.error error)
  | succeeds {i : Nat} {p : Processor ρ} {rest : List (Processor ρ)} {input output : Output ρ}
      {steps : List (Processor ρ × Output ρ)} {r : Result ρ}
      (hg : p.Gives input (drops i) (.ok output)) (hs : Steps drops (i + 1) rest output steps r) :
      Steps drops i (p :: rest) input ((p, input) :: steps) r

/-- The executor drops exactly these tasks; each of the others it runs at once or keeps. -/
def Environment.Drops (env : Environment ρ) (drops : Nat → Bool) : Prop :=
  ∀ i, env.discipline i = .drops ↔ drops i = true

namespace Processor

variable {drops : Nat → Bool} {i : Nat} {processors : List (Processor ρ)} {input : Output ρ}
  {steps : List (Processor ρ × Output ρ)} {r : Result ρ}

theorem Returns.gives {p : Processor ρ} (hp : p.Returns) (input : Output ρ) (drop : Bool) :
    ∃ r, p.Gives input drop r := by
  cases drop with
  | true => exact ⟨_, .dropped⟩
  | false =>
    obtain ⟨r, hr⟩ := hp input
    exact ⟨r, .ran hr⟩

theorem exists_steps (hp : ∀ p ∈ processors, p.Returns) (drops : Nat → Bool) (i : Nat)
    (input : Output ρ) : ∃ steps r, Steps drops i processors input steps r := by
  induction processors generalizing i input with
  | nil => exact ⟨[], _, .done⟩
  | cons p rest ih =>
    obtain ⟨r, hr⟩ := (hp p List.mem_cons_self).gives input (drops i)
    cases r with
    | error error => exact ⟨_, _, .fails hr⟩
    | ok output =>
      obtain ⟨steps, r, hs⟩ := ih (fun q hq => hp q (List.mem_cons_of_mem p hq)) (i + 1) output
      exact ⟨_, r, .succeeds hr hs⟩

/-- They are the first of the processors, in order. -/
theorem Steps.isPrefix (h : Steps drops i processors input steps r) :
    steps.map Prod.fst <+: processors := by
  induction h with
  | done => exact List.prefix_rfl
  | fails => exact List.cons_prefix_cons.mpr ⟨rfl, List.nil_prefix⟩
  | succeeds _ _ ih => exact List.cons_prefix_cons.mpr ⟨rfl, ih⟩

/-- What is handed over after another task comes after one that ran. -/
theorem Steps.not_dropped (h : Steps drops i processors input steps r) {j : Nat}
    (hj : j + 1 < steps.length) : drops (i + j) = false := by
  induction h generalizing j with
  | done => simp at hj
  | fails => simp at hj
  | @succeeds i p rest input output steps r hg hs ih =>
    cases j with
    | zero =>
      generalize hd : drops (i + 0) = drop
      rw [Nat.add_zero] at hd
      rw [hd] at hg
      cases hg
      rfl
    | succ j =>
      have hl : i + 1 + j = i + (j + 1) := by omega
      rw [← hl]
      exact ih (by simpa using hj)

theorem Gives.ending_eq {env : Environment ρ} (hd : env.Drops drops) {p : Processor ρ}
    (h : p.Gives input (drops i) r) : p.ending (env.discipline i) input = .returned r := by
  generalize hdrop : drops i = drop at h
  cases h with
  | ran hr =>
    refine ending_of_returned (fun hdrops => ?_) hr
    rw [(hd i).mp hdrops] at hdrop
    cases hdrop
  | dropped => rw [(hd i).mpr hdrop, ending]

/-- The account of processors is that of the ones handed over. -/
theorem Steps.processing_eq {env : Environment ρ} (hd : env.Drops drops)
    (h : Steps drops i processors input steps r) :
    Account.processing env.discipline i processors input =
      ⟨steps.map fun step => .process step.1 step.2, .returned r⟩ := by
  induction h with
  | done => rfl
  | fails hg => exact Account.processing_cons_stop (hg.ending_eq hd) fun made he => by cases he
  | succeeds hg hs ih =>
    rw [Account.processing_cons_ok (hg.ending_eq hd), ih]
    rfl

end Processor

/-- What an execution comes to whose requests come to `gathered`: the processors it hands over, the
failure there is to report and the end. A caller is told the failure of a single request; nobody else
is. -/
inductive Execution.Story (drops : Nat → Bool) (path : Path) (processors : List (Processor ρ)) :
    Outcome (Result ρ) → List (Processor ρ × Output ρ) → Option OperationError →
      Outcome (Result ρ) → Prop where
  | unwound {message : String} :
      Story drops path processors (.panicked message) [] none (.panicked message)
  | failed {error : OperationError} :
      Story drops path processors (.returned (.error error)) []
        (if path = .callback then some error else none) (.returned (.error error))
  | processed {output : Output ρ} {steps : List (Processor ρ × Output ρ)} {r : Result ρ}
      (hs : Processor.Steps drops 0 processors output steps r) :
      Story drops path processors (.returned (.ok output)) steps (Account.blame output r)
        (.returned r)

/-- The callback gets an output; it has no use for an error. -/
def Execution.delivery : Path → Outcome (Result ρ) → List (Action ρ)
  | .callback, .returned (.ok output) => [.deliver output]
  | _, _ => []

/-- The tasks of one execution. -/
def Execution.tasks (path : Path) (handler : Option Handler)
    (steps : List (Processor ρ × Output ρ)) (failure? : Option OperationError)
    (ending : Outcome (Result ρ)) : List (Action ρ) :=
  steps.map (fun step => .process step.1 step.2) ++ Action.calls handler failure? ++
    delivery path ending

theorem Action.filterMap_process (steps : List (Processor ρ × Output ρ)) :
    steps.filterMap (Action.process? ∘ fun step => .process step.1 step.2) = steps :=
  List.filterMap_some

namespace Execution.Story

variable {drops : Nat → Bool} {path : Path} {processors : List (Processor ρ)}
  {gathered ending : Outcome (Result ρ)} {steps : List (Processor ρ × Output ρ)}
  {failure? : Option OperationError}

theorem exists_of_returns (hp : ∀ p ∈ processors, p.Returns) (drops : Nat → Bool) (path : Path)
    (gathered : Outcome (Result ρ)) :
    ∃ steps failure? ending, Story drops path processors gathered steps failure? ending := by
  cases gathered with
  | panicked message => exact ⟨_, _, _, .unwound⟩
  | returned first =>
    cases first with
    | error error => exact ⟨_, _, _, .failed⟩
    | ok output =>
      obtain ⟨steps, r, hs⟩ := Processor.exists_steps hp drops 0 output
      exact ⟨_, _, _, .processed hs⟩

theorem isPrefix (h : Story drops path processors gathered steps failure? ending) :
    steps.map Prod.fst <+: processors := by
  cases h with
  | unwound => exact List.nil_prefix
  | failed => exact List.nil_prefix
  | processed hs => exact hs.isPrefix

theorem not_dropped (h : Story drops path processors gathered steps failure? ending) {j : Nat}
    (hj : j + 1 < steps.length) : drops j = false := by
  cases h with
  | unwound => simp at hj
  | failed => simp at hj
  | processed hs =>
    have hd := hs.not_dropped hj
    rwa [Nat.zero_add] at hd

theorem account_eq {env : Environment ρ} (hd : env.Drops drops) (handler : Option Handler)
    (h : Story drops path processors gathered steps failure? ending) :
    Account.ofGathered env.discipline path handler processors gathered =
      ⟨tasks path handler steps failure? ending, ending⟩ := by
  cases h with
  | unwound => cases path <;> simp [Account.ofGathered, tasks, delivery, Action.calls]
  | failed => cases path <;> simp [Account.ofGathered, tasks, delivery, Action.failing, Action.calls]
  | @processed output steps r hs =>
    simp only [Account.ofGathered, hs.processing_eq hd, Account.closing, tasks, List.append_assoc]
    cases r with
    | error error => cases path <;> simp [Action.closing, Account.blame, delivery]
    | ok made => cases path <;> simp [Action.closing, Account.blame, delivery]

end Execution.Story

namespace Course

/-- Tasks of which the first ones are not dropped. -/
theorem take_isPrefix_taken {env : Environment ρ} {i k : Nat} {tasks : List (Action ρ)}
    (h : ∀ j < k, env.discipline (i + j) ≠ .drops) : tasks.take k <+: env.taken i tasks := by
  induction tasks generalizing i k with
  | nil => simp
  | cons task rest ih =>
    cases k with
    | zero => simp
    | succ k =>
      have h0 : env.discipline i ≠ .drops := h 0 (by omega)
      rw [Environment.taken, if_neg h0, List.take_succ_cons, List.cons_prefix_cons]
      refine ⟨rfl, ih fun j hj => ?_⟩
      have hl : i + 1 + j = i + (j + 1) := by omega
      rw [hl]
      exact h (j + 1) (by omega)

end Course

/-- How the tasks of a submission are handed over, if they are those of this story. -/
structure Submission.HandsOver (s : Submission ρ) (env : Environment ρ) (path : Path)
    (handler : Option Handler) (steps : List (Processor ρ × Output ρ))
    (failure? : Option OperationError) (ending : Outcome (Result ρ)) : Prop where
  inOrder : ∀ moves, ((Course.start s).run env moves).handed <+:
    Execution.tasks path handler steps failure? ending
  /-- By the time a processor is handed over those before it have run. -/
  afterOthers : ∀ (moves : List Move) (i : Nat), i < steps.length →
    i < ((Course.start s).run env moves).handed.length →
      steps.take i <+: ((Course.start s).run env moves).processes
  all : s.LeadsTo env fun c =>
    c.handed = Execution.tasks path handler steps failure? ending ∧
      c.execution.stage = .ofEnding ending
  /-- Whoever waits for the handle finds everything handed over. -/
  beforeResult : path = .caller → ∀ moves r,
    s.resolved? ((Course.start s).run env moves) = some r →
      r = ending.joined ∧ ((Course.start s).run env moves).handed =
        Execution.tasks path handler steps failure? ending

namespace Operation.IsStack

variable {o : Operation σ ρ} {path : Path} {state : σ} {s : Submission ρ}
  {env : Environment ρ} {drops : Nat → Bool} {gathered ending : Outcome (Result ρ)}
  {steps : List (Processor ρ × Output ρ)} {failure? : Option OperationError}

/-- Only the result of a batch without statements is known at once. -/
theorem eq_of_known (h : o.IsStack) (hs : (o.submit path state).1 = .ok s) {r : Result ρ}
    (hk : s.execution.known? = some r) : r = .ok (.batch ⟨[]⟩) := by
  obtain ⟨statements, hc, rfl⟩ := h.submit_ok hs
  cases hb : o.base with
  | known statement result => exact absurd hb (h.sends statement result)
  | single creator => simp [submission, gathering, hb, Execution.known?] at hk
  | fanOut type creators =>
    cases statements with
    | cons statement rest => simp [submission, gathering, hb, Execution.known?] at hk
    | nil =>
      unfold Execution.known? at hk
      split at hk
      next result hx =>
        cases hk
        simp only [submission, gathering, hb, List.isEmpty_nil, if_true, Stage.gathering.injEq,
          Gathering.known.injEq] at hx
        exact hx.1.symm
      next => cases hk

/-- A batch without statements and without processors has nothing to hand over to a caller's
executor. -/
theorem tasks_of_known (h : o.IsStack) (hs : (o.submit path state).1 = .ok s)
    (hg : o.base.gathered? o.translator env.outcome s.statements.length = some gathered)
    (hstory : Execution.Story drops path o.processors gathered steps failure? ending)
    {r : Result ρ} (hk : s.execution.known? = some r) :
    ending = .returned r ∧
      Execution.tasks .caller o.options.handler steps failure? ending = [] := by
  obtain ⟨hp, rfl⟩ := h.of_known? hs hg hk
  obtain rfl := h.eq_of_known hs hk
  rw [hp] at hstory
  cases hstory with
  | processed hsteps =>
    cases hsteps
    exact ⟨rfl, by simp [Execution.tasks, Execution.delivery, Account.blame, Output.failure?,
      BatchResult.firstFailure?, Action.calls]⟩

/-- The account of a stack as a story. -/
theorem account_of_story (h : o.IsStack) (hs : (o.submit path state).1 = .ok s)
    (hd : env.Drops drops)
    (hstory : Execution.Story drops path o.processors gathered steps failure? ending) :
    Course.account env s.execution o.processors gathered =
      ⟨Execution.tasks path o.options.handler steps failure? ending, ending⟩ :=
  (h.account_eq hs env gathered).trans (hstory.account_eq hd o.options.handler)

theorem handed_isPrefix_of_story (h : o.IsStack) (hs : (o.submit path state).1 = .ok s)
    (hg : o.base.gathered? o.translator env.outcome s.statements.length = some gathered)
    (hd : env.Drops drops)
    (hstory : Execution.Story drops path o.processors gathered steps failure? ending)
    (moves : List Move) :
    ((Course.start s).run env moves).handed <+:
      Execution.tasks path o.options.handler steps failure? ending := by
  have hp := (h.onTrack hs hg moves).handed_isPrefix
  rwa [h.account_of_story hs hd hstory] at hp

/-- None of the tasks before the last one that was handed over is dropped, as long as they are those
of processors. -/
theorem processes_of_story (h : o.IsStack) (hs : (o.submit path state).1 = .ok s)
    (hg : o.base.gathered? o.translator env.outcome s.statements.length = some gathered)
    (hd : env.Drops drops)
    (hstory : Execution.Story drops path o.processors gathered steps failure? ending)
    (moves : List Move) {i : Nat} (hi : i < steps.length)
    (hlen : i < ((Course.start s).run env moves).handed.length) :
    steps.take i <+: ((Course.start s).run env moves).processes := by
  have htrack := h.onTrack hs hg moves
  have horder := h.handed_isPrefix_of_story hs hg hd hstory moves
  generalize (Course.start s).run env moves = c at hlen htrack horder ⊢
  have hlast := List.prefix_iff_eq_take.mp ((List.dropLast_prefix c.handed).trans horder)
  have htake : c.handed.dropLast.take i =
      (steps.take i).map fun step => .process step.1 step.2 := by
    rw [hlast, List.take_take, List.length_dropLast, Nat.min_eq_left (by omega), Execution.tasks,
      List.append_assoc, List.take_append_of_le_length (by rw [List.length_map]; omega),
      List.map_take]
  have htaken : c.handed.dropLast.take i <+: env.taken 0 c.handed.dropLast := by
    refine Course.take_isPrefix_taken fun j hj hdrops => ?_
    rw [Nat.zero_add, hd j, hstory.not_dropped (by omega)] at hdrops
    cases hdrops
  have hran := (htaken.filterMap Action.process?).trans htrack.ran_before_last
  rwa [htake, List.filterMap_map, Action.filterMap_process] at hran

/-- An execution with a result has handed over all tasks of its story. -/
theorem handed_of_story (h : o.IsStack) (hs : (o.submit path state).1 = .ok s)
    (hg : o.base.gathered? o.translator env.outcome s.statements.length = some gathered)
    (hd : env.Drops drops)
    (hstory : Execution.Story drops path o.processors gathered steps failure? ending)
    {moves : List Move} {r : Result ρ}
    (hr : ((Course.start s).run env moves).execution.result? = some r) :
    ((Course.start s).run env moves).handed =
        Execution.tasks path o.options.handler steps failure? ending ∧
      ((Course.start s).run env moves).execution.stage = .ofEnding ending := by
  obtain ⟨-, hx, hh, -⟩ := (h.onTrack hs hg moves).of_result? hr
  rw [h.account_of_story hs hd hstory] at hx hh
  exact ⟨hh, hx⟩

/-- A caller who waits for the handle finds either what was known from the start or the end of the
execution. -/
theorem resolved_of_story (h : o.IsStack) (hs : (o.submit .caller state).1 = .ok s)
    (hg : o.base.gathered? o.translator env.outcome s.statements.length = some gathered)
    (hd : env.Drops drops)
    (hstory : Execution.Story drops .caller o.processors gathered steps failure? ending)
    {moves : List Move} {r : Result ρ}
    (hres : s.resolved? ((Course.start s).run env moves) = some r) :
    r = ending.joined ∧ ((Course.start s).run env moves).handed =
      Execution.tasks .caller o.options.handler steps failure? ending := by
  unfold Submission.resolved? Submission.handle Pending.ofExecution at hres
  cases hk : s.execution.known? with
  | some known =>
    obtain ⟨rfl, htasks⟩ := h.tasks_of_known hs hg hstory hk
    have hp := h.handed_isPrefix_of_story hs hg hd hstory moves
    rw [htasks] at hp ⊢
    simp only [hk, Pending.poll, Option.some.injEq] at hres
    exact ⟨hres.symm, List.prefix_nil.mp hp⟩
  | none =>
    have hr : ((Course.start s).run env moves).execution.result? = some r := by
      rw [hk] at hres
      simp only [Pending.poll] at hres
      split at hres
      next found hf => rw [hf]; exact hres
      next => cases hres
    obtain ⟨hh, hx⟩ := h.handed_of_story hs hg hd hstory hr
    rw [Execution.result?_of_ending hx] at hr
    exact ⟨(Option.some.inj hr).symm, hh⟩

theorem handsOver_of_story (h : o.IsStack) (hs : (o.submit path state).1 = .ok s)
    (hg : o.base.gathered? o.translator env.outcome s.statements.length = some gathered)
    (hd : env.Drops drops)
    (hstory : Execution.Story drops path o.processors gathered steps failure? ending) :
    s.HandsOver env path o.options.handler steps failure? ending where
  inOrder := h.handed_isPrefix_of_story hs hg hd hstory
  afterOthers moves _ hi hlen := h.processes_of_story hs hg hd hstory moves hi hlen
  all :=
    { settles := fun schedule hf => hf.exists_settled
      holds := fun moves hset => by
        have hl := (Course.Logged.start env s).run moves
        obtain ⟨-, hx⟩ := (h.onTrack hs hg moves).of_settled hset (by rw [hl.length, hl.statements])
        obtain ⟨r, hr⟩ := Execution.exists_result? hx
        exact h.handed_of_story hs hg hd hstory hr }
  beforeResult hpath moves r hres := by
    subst hpath
    exact h.resolved_of_story hs hg hd hstory hres

/-- The request of a single statement is not cancelled alone; with that all requests come to
something. -/
theorem exists_gathered (h : o.IsStack) {outcome : Nat → Resolution ρ}
    (hc : ∀ creator, o.base = .single creator → outcome 0 ≠ .cancelled) (n : Nat) :
    ∃ gathered, o.base.gathered? o.translator outcome n = some gathered := by
  cases hb : o.base with
  | known statement result => exact absurd hb (h.sends statement result)
  | fanOut type creators => exact ⟨_, rfl⟩
  | single creator =>
    have hne := hc creator hb
    rw [Base.gathered?]
    cases ho : outcome 0 with
    | answered reply => exact ⟨_, rfl⟩
    | failed failure => exact ⟨_, rfl⟩
    | panicked message => exact ⟨_, rfl⟩
    | cancelled => exact absurd ho hne

/-- A stack of processors that return has a story for each outcome of its requests and each choice of
tasks to be dropped, and under any schedule its tasks are handed over as the story has it. Submitting
it hands over none. -/
theorem hands_over (h : o.IsStack) (hp : ∀ p ∈ o.processors, p.Returns)
    (hs : (o.submit path state).1 = .ok s) {outcome : Nat → Resolution ρ}
    (hc : ∀ creator, o.base = .single creator → outcome 0 ≠ .cancelled) (drops : Nat → Bool) :
    (o.submit path state).2.1 = [] ∧ ∃ gathered steps failure? ending,
      o.base.gathered? o.translator outcome s.statements.length = some gathered ∧
      Execution.Story drops path o.processors gathered steps failure? ending ∧
      steps.map Prod.fst <+: o.processors ∧
      ∀ env : Environment ρ, env.outcome = outcome → env.Drops drops →
        s.HandsOver env path o.options.handler steps failure? ending := by
  obtain ⟨gathered, hg⟩ := h.exists_gathered hc s.statements.length
  obtain ⟨steps, failure?, ending, hstory⟩ :=
    Execution.Story.exists_of_returns hp drops path gathered
  refine ⟨h.submit_actions path state, gathered, steps, failure?, ending, hg, hstory,
    hstory.isPrefix, fun env ho hd => ?_⟩
  subst ho
  exact h.handsOver_of_story hs hg hd hstory

end Operation.IsStack

/-! The pair again, under two processors that keep what they get; the task of the second one is
dropped. -/

def Operation.keptPair : Operation Unit Nat :=
  (pair.transform .keeping).transform .keeping

theorem Operation.returns_keptPair : ∀ p ∈ keptPair.processors, p.Returns := by
  intro p hp
  obtain rfl : p = .keeping := by
    rcases List.mem_cons.mp hp with rfl | hp
    · rfl
    · exact List.mem_singleton.mp hp
  exact fun input => ⟨_, rfl⟩

/-- Only the second task. -/
def Environment.dropsSecond : Nat → Bool
  | 1 => true
  | _ => false

/-- What the first task made is lost with the second one, and that is what is reported. -/
theorem hands_over_keptPair :
    ∃ s, Operation.keptPair.submit .caller () = (.ok s, [], ()) ∧
      ∀ env : Environment Nat, env.outcome = Environment.secondFails.outcome →
        env.Drops Environment.dropsSecond →
          s.LeadsTo env fun c =>
            c.handed = [.process .keeping (.batch (.ofOutcomes .standard env.outcome 2)),
              .process .keeping (.batch (.ofOutcomes .standard env.outcome 2)),
              .report ⟨⟨"log"⟩, .taskDropped⟩] ∧
            c.execution.stage = .ended (.error .taskDropped) := by
  have hstack : Operation.keptPair.IsStack :=
    (Operation.isStack_pair.transform .keeping).transform .keeping
  have hs : (Operation.keptPair.submit .caller ()).1 = .ok _ := rfl
  have hc : ∀ creator, Operation.keptPair.base = .single creator →
      Environment.secondFails.outcome 0 ≠ .cancelled := fun _ hb => nomatch hb
  obtain ⟨-, gathered, steps, failure?, ending, hg, hstory, -, hall⟩ :=
    hstack.hands_over Operation.returns_keptPair hs hc Environment.dropsSecond
  refine ⟨_, rfl, fun env ho hd => ?_⟩
  have hover := (hall env ho hd).all
  rw [← ho] at hg
  cases hg
  cases hstory with
  | processed hsteps =>
    -- neither processor fails by itself, and the second one is not asked
    cases hsteps with
    | fails hg =>
      cases hg with
      | ran hr => cases hr
    | succeeds hg hrest =>
      cases hg with
      | ran hr =>
        cases hr
        cases hrest with
        | succeeds hg => cases hg
        | fails hg =>
          cases hg with
          | dropped => exact hover

end CqlOperations
