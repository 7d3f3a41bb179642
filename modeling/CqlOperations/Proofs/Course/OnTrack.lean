import CqlOperations.Proofs.Course.Account
import CqlOperations.Proofs.Gathering

/-! A course stays on the track of its account under any schedule, and where it settles the account
is complete. The invariant goes by the stage of the execution; the levels of its notifier are
followed with it. -/
namespace CqlOperations

variable {ρ : Type}

/-- Where an execution ends. -/
def Stage.ofEnding : Outcome (Result ρ) → Stage ρ
  | .returned result => .ended result
  | .panicked message => .unwound message

theorem Execution.exists_result? {x : Execution ρ} {ending : Outcome (Result ρ)}
    (h : x.stage = .ofEnding ending) : ∃ r, x.result? = some r := by
  unfold Execution.result?
  rw [h]
  cases ending with
  | returned r => exact ⟨r, rfl⟩
  | panicked message => exact ⟨_, rfl⟩

theorem Stage.isGathering_ofEnding (ending : Outcome (Result ρ)) :
    (Stage.ofEnding ending).isGathering = false := by
  cases ending <;> rfl

namespace Course

def AllEnded (c : Course ρ) : Prop :=
  ∀ p ∈ c.requests, p = .ended

/-- A processor with `level` others after it is under way; its level keeps `failure?`. -/
structure Underway (x₀ : Execution ρ) (c : Course ρ) (level : Nat)
    (failure? : Option OperationError) : Prop where
  ended : c.AllEnded
  path : c.execution.path = x₀.path
  handler : c.execution.notifier.handler = x₀.notifier.handler
  parks : c.execution.notifier.Parks level failure?

/-- The account of an execution that starts as `x₀`. -/
def account (env : Environment ρ) (x₀ : Execution ρ) (processors : List (Processor ρ))
    (gathered : Outcome (Result ρ)) : Account ρ :=
  .ofGathered env.discipline x₀.path x₀.notifier.handler processors gathered

inductive OnTrack (env : Environment ρ) (x₀ : Execution ρ) (processors : List (Processor ρ))
    (gathered : Outcome (Result ρ)) : Course ρ → Prop where
  | gathering {c : Course ρ} {g : Gathering ρ}
      (hx : c.execution = { x₀ with stage := .gathering g processors })
      (hg : Gathers x₀.translator env.outcome gathered c.requests g)
      (hh : c.handed = []) (hk : c.kept = []) (hr : c.ran = []) :
      OnTrack env x₀ processors gathered c
  | running {c : Course ρ} {output input : Output ρ} {done : List (Action ρ)}
      {p : Processor ρ} {rest : List (Processor ρ)}
      (ho : gathered = .returned (.ok output))
      (hm : Account.Midway env.discipline processors output done p rest input)
      (hu : c.Underway x₀ rest.length output.failure?)
      (hx : c.execution.stage = .processing rest none)
      (hd : env.discipline done.length = .keeps)
      (hh : c.handed = done ++ [.process p input]) (hk : c.kept = [.process p input])
      (hr : c.ran = env.taken 0 done) :
      OnTrack env x₀ processors gathered c
  | processed {c : Course ρ} {output input : Output ρ} {done : List (Action ρ)}
      {p : Processor ρ} {rest : List (Processor ρ)} {r : Result ρ}
      (ho : gathered = .returned (.ok output))
      (hm : Account.Midway env.discipline processors output done p rest input)
      (hu : c.Underway x₀ rest.length output.failure?)
      (hx : c.execution.stage = .processing rest (some r))
      (he : p.ending (env.discipline done.length) input = .returned r)
      (hh : c.handed = done ++ [.process p input]) (hk : c.kept = [])
      (hr : c.ran = env.taken 0 c.handed) :
      OnTrack env x₀ processors gathered c
  | concluded {c : Course ρ}
      (ho : c.AllEnded)
      (hx : c.execution.stage = .ofEnding (account env x₀ processors gathered).ending)
      (hh : c.handed = (account env x₀ processors gathered).tasks)
      (hk : c.kept.filterMap Action.process? = [])
      (hr : c.processes = (env.taken 0 c.handed).filterMap Action.process?) :
      OnTrack env x₀ processors gathered c

variable {env : Environment ρ} {x₀ : Execution ρ} {processors : List (Processor ρ)}
  {gathered : Outcome (Result ρ)}

/-! Tasks other than processors do not come back to the execution. -/

theorem runTask_passive (c : Course ρ) {task : Action ρ} (ht : task.process? = none) :
    c.runTask task = ({ c with ran := c.ran ++ [task] }, none) := by
  cases task with
  | process p input => cases ht
  | report r => rfl
  | deliver output => rfl
  | observe text => rfl

theorem taken_passive (env : Environment ρ) (i : Nat) {tasks : List (Action ρ)}
    (ht : ∀ task ∈ tasks, task.process? = none) :
    (env.taken i tasks).filterMap Action.process? = [] :=
  List.filterMap_eq_nil_iff.mpr fun task h => ht task (Environment.mem_of_mem_taken h)

/-- What handing over tasks that are no processors leaves as it is. -/
structure SameProcesses (c after : Course ρ) : Prop where
  execution : after.execution = c.execution
  requests : after.requests = c.requests
  processes : after.processes = c.processes
  kept : after.kept.filterMap Action.process? = c.kept.filterMap Action.process?

theorem SameProcesses.trans {c middle after : Course ρ} (h : SameProcesses c middle)
    (h' : SameProcesses middle after) : SameProcesses c after :=
  ⟨h'.1.trans h.1, h'.2.trans h.2, h'.3.trans h.3, h'.4.trans h.4⟩

theorem hand_passive (env : Environment ρ) (c : Course ρ) {task : Action ρ}
    (ht : task.process? = none) :
    ∃ given, c.hand env task = (given, none) ∧ SameProcesses c given ∧
      given.handed = c.handed ++ [task] := by
  have happend : ∀ tasks : List (Action ρ),
      (tasks ++ [task]).filterMap Action.process? = tasks.filterMap Action.process? := by
    intro tasks
    simp only [List.filterMap_append, List.filterMap_cons, ht, List.filterMap_nil,
      List.append_nil]
  unfold hand
  split
  next => exact ⟨_, runTask_passive _ ht, ⟨rfl, rfl, happend _, rfl⟩, rfl⟩
  next => exact ⟨_, rfl, ⟨rfl, rfl, rfl, happend _⟩, rfl⟩
  next =>
    cases task with
    | process p input => cases ht
    | report r => exact ⟨_, rfl, ⟨rfl, rfl, rfl, rfl⟩, rfl⟩
    | deliver output => exact ⟨_, rfl, ⟨rfl, rfl, rfl, rfl⟩, rfl⟩
    | observe text => exact ⟨_, rfl, ⟨rfl, rfl, rfl, rfl⟩, rfl⟩

theorem perform_passive (env : Environment ρ) (c : Course ρ) {tasks : List (Action ρ)}
    (ht : ∀ task ∈ tasks, task.process? = none) :
    SameProcesses c (c.perform env tasks) ∧ (c.perform env tasks).handed = c.handed ++ tasks := by
  induction tasks generalizing c with
  | nil => exact ⟨⟨rfl, rfl, rfl, rfl⟩, (List.append_nil _).symm⟩
  | cons task rest ih =>
    obtain ⟨given, hg, hs, hh⟩ := hand_passive env c (ht task (by simp))
    obtain ⟨hs', hh'⟩ := ih given fun task h => ht task (by simp [h])
    rw [perform, hg]
    exact ⟨hs.trans hs', by rw [hh', hh, List.append_assoc]; rfl⟩

theorem passive_calls (handler : Option Handler) (failure? : Option OperationError) :
    ∀ task ∈ (Action.calls handler failure? : List (Action ρ)), task.process? = none := by
  intro task ht
  obtain ⟨r, -, rfl⟩ := List.mem_map.mp ht
  rfl

theorem passive_closing (path : Path) (handler : Option Handler)
    (failure? : Option OperationError) (r : Result ρ) :
    ∀ task ∈ Action.closing path handler failure? r, task.process? = none := by
  intro task ht
  cases r with
  | error error => exact passive_calls _ _ task ht
  | ok output =>
    rcases List.mem_append.mp ht with h | h
    · exact passive_calls _ _ task h
    · cases path with
      | caller => cases h
      | callback => rw [List.mem_singleton.mp h]; rfl

theorem passive_failing (path : Path) (handler : Option Handler) (error : OperationError) :
    ∀ task ∈ (Action.failing path handler error : List (Action ρ)), task.process? = none := by
  cases path with
  | caller => simp [Action.failing]
  | callback => exact passive_calls _ _

/-! One lemma for each way on: a processor is handed over, its result is taken down, an end is
reached, the requests are gathered. -/

private theorem account_of_last (x₀ : Execution ρ) {output input : Output ρ}
    {done : List (Action ρ)} {p : Processor ρ} {rest : List (Processor ρ)} {ending : Outcome (Result ρ)}
    (hm : Account.Midway env.discipline processors output done p rest input)
    (he : p.ending (env.discipline done.length) input = ending)
    (hl : rest = [] ∨ ∀ made, ending ≠ .returned (.ok made)) :
    account env x₀ processors (.returned (.ok output)) =
      ⟨done ++ [.process p input] ++
        Account.closing x₀.path x₀.notifier.handler output.failure? ending, ending⟩ := by
  simp only [account, Account.ofGathered, hm.last he hl]

/-- The result of the processor under way is taken down. -/
private theorem onTrack_tell {c : Course ρ} {output input : Output ρ} {done : List (Action ρ)}
    {p : Processor ρ} {rest : List (Processor ρ)} {r : Result ρ}
    (ho : gathered = .returned (.ok output))
    (hm : Account.Midway env.discipline processors output done p rest input)
    (hu : c.Underway x₀ rest.length output.failure?)
    (hx : c.execution.stage = .processing rest none)
    (he : p.ending (env.discipline done.length) input = .returned r)
    (hh : c.handed = done ++ [.process p input]) (hk : c.kept = [])
    (hr : c.ran = env.taken 0 c.handed) :
    OnTrack env x₀ processors gathered (c.tell (.processed r)) := by
  have ht : (c.tell (.processed r)).execution =
      { c.execution with stage := .processing rest (some r) } :=
    Execution.acceptProcessed_running hx r
  obtain ⟨hover, hpath, hhandler, hparks⟩ := hu
  refine .processed ho hm ⟨hover, ?_, ?_, ?_⟩ (by rw [ht]) he hh hk hr
  · rw [ht]; exact hpath
  · rw [ht]; exact hhandler
  · rw [ht]; exact hparks

private theorem onTrack_hand {c : Course ρ} {output input : Output ρ} {p : Processor ρ}
    {rest : List (Processor ρ)} (ho : gathered = .returned (.ok output))
    (hm : Account.Midway env.discipline processors output c.handed p rest input)
    (hu : c.Underway x₀ rest.length output.failure?)
    (hx : c.execution.stage = .processing rest none) (hk : c.kept = [])
    (hr : c.ran = env.taken 0 c.handed) :
    OnTrack env x₀ processors gathered (c.perform env [.process p input]) := by
  let given := { c with handed := c.handed ++ [Action.process p input] }
  have htaken : env.taken 0 (c.handed ++ [Action.process p input]) = c.ran ++
      env.taken c.handed.length [Action.process p input] := by
    rw [Environment.taken_append, hr, Nat.zero_add]
  cases hd : env.discipline c.handed.length with
  | keeps =>
    have hp : c.perform env [.process p input] =
        { given with kept := c.kept ++ [.process p input] } := by
      simp only [perform, hand, hd, given]
    rw [hp]
    exact .running ho hm ⟨hu.ended, hu.path, hu.handler, hu.parks⟩ hx hd rfl (by rw [hk]; rfl) hr
  | drops =>
    have hp : c.perform env [.process p input] =
        given.tell (.processed (.error .taskDropped)) := by
      simp only [perform, hand, hd, given, dropTask]
      rfl
    have hr' : given.ran = env.taken 0 given.handed := by
      simp only [given, htaken, Environment.taken, hd, if_true, List.append_nil]
    rw [hp]
    exact onTrack_tell ho hm ⟨hu.ended, hu.path, hu.handler, hu.parks⟩ hx
      (by simp only [Processor.ending, hd]) rfl hk hr'
  | runs =>
    let ran := { given with ran := c.ran ++ [Action.process p input] }
    have hr' : ran.ran = env.taken 0 ran.handed := by
      simp [ran, given, htaken, Environment.taken, hd]
    cases hp : p.run input with
    | returned r =>
      have hc : c.perform env [.process p input] = ran.tell (.processed r) := by
        simp only [perform, hand, hd, runTask, hp, ran, given]
      rw [hc]
      exact onTrack_tell ho hm ⟨hu.ended, hu.path, hu.handler, hu.parks⟩ hx
        (by simp only [Processor.ending, hd, hp]) rfl hk hr'
    | panicked message =>
      have hc : c.perform env [.process p input] =
          (ran.tell .dropped).tell (.unwound message) := by
        simp only [perform, hand, hd, runTask, hp, ran, given]
      have hs : (ran.tell .dropped).execution.stage =
          .processing rest (some (.error .taskDropped)) :=
        congrArg Execution.stage (Execution.acceptProcessed_running hx _)
      have he : p.ending (env.discipline c.handed.length) input = .panicked message := by
        simp only [Processor.ending, hd, hp]
      have ha := account_of_last x₀ hm he (.inr fun made h => by cases h)
      subst ho
      rw [hc]
      refine .concluded hu.ended ?_ ?_ (by simp [tell, ran, given, hk]) ?_
      · rw [ha]
        exact congrArg Execution.stage (Execution.unwind_processing hs message)
      · rw [ha]
        exact (List.append_nil _).symm
      · exact congrArg (List.filterMap Action.process?) hr'

/-- An end is reached: what is left to hand over does not come back. -/
private theorem onTrack_close {c : Course ρ} {tasks : List (Action ρ)}
    (ht : ∀ task ∈ tasks, task.process? = none) (hc : c.AllEnded)
    (hx : c.execution.stage = .ofEnding (account env x₀ processors gathered).ending)
    (hh : c.handed ++ tasks = (account env x₀ processors gathered).tasks)
    (hk : c.kept = []) (hr : c.ran = env.taken 0 c.handed) :
    OnTrack env x₀ processors gathered (c.perform env tasks) := by
  obtain ⟨hs, hh'⟩ := perform_passive env c ht
  refine .concluded ?_ (by rw [hs.execution, hx]) (by rw [hh', hh]) ?_ ?_
  · unfold AllEnded
    rw [hs.requests]
    exact hc
  · rw [hs.kept, hk]
    rfl
  · rw [hs.processes, hh', Environment.taken_append, List.filterMap_append,
      taken_passive env _ ht, List.append_nil, ← hr]
    rfl

private theorem onTrack_gathered {c : Course ρ} {g : Gathering ρ} {r : Result ρ}
    (hf : x₀.notifier = .ofLevels x₀.notifier.handler processors.length)
    (hx : c.execution = { x₀ with stage := .gathering g processors })
    (hg : Gathers x₀.translator env.outcome gathered c.requests g)
    (hg? : g.result? = some r) (hh : c.handed = []) (hk : c.kept = []) (hr : c.ran = []) :
    OnTrack env x₀ processors gathered
      ({ c with execution := (c.execution.gathered processors r).1 }.perform env
        (c.execution.gathered processors r).2) := by
  obtain ⟨hgr, hover⟩ := hg.of_result? hg?
  subst hgr
  have hr' : c.ran = env.taken 0 c.handed := by rw [hr, hh]; rfl
  have hn : c.execution.notifier = x₀.notifier := by rw [hx]
  have hp : c.execution.path = x₀.path := by rw [hx]
  have hfired : c.execution.notifier.fired = false := by rw [hn, hf]; rfl
  rw [← hn] at hf
  cases r with
  | error error =>
    rw [Execution.gathered_error hf error, hp, hn]
    refine onTrack_close (passive_failing _ _ _) hover (Execution.gathered_stage _ _ _) ?_ hk hr'
    simp only [hh]
    rfl
  | ok output =>
    cases processors with
    | nil =>
      rw [Execution.gathered_ok_nil hfired output, hp, hn]
      refine onTrack_close (passive_closing _ _ _ _) hover (Execution.gathered_stage _ _ _) ?_
        hk hr'
      simp only [hh]
      rfl
    | cons p rest =>
      obtain ⟨ha, hparks⟩ := Execution.gathered_ok_cons hf output
      have hhandler : (c.execution.gathered (p :: rest) (.ok output)).1.notifier.handler =
          x₀.notifier.handler := by
        rw [← hn, Execution.gathered_handler]
      have hm : Account.Midway env.discipline (p :: rest) output c.handed p rest output := by
        rw [hh]
        exact .first _ _ _ _
      rw [ha]
      exact onTrack_hand rfl hm ⟨hover, hp, hhandler, hparks⟩
        (Execution.gathered_stage _ _ _) hk hr'

private theorem onTrack_processed {c : Course ρ} {output input : Output ρ}
    {done : List (Action ρ)} {p : Processor ρ} {rest : List (Processor ρ)} {r : Result ρ}
    (ho : gathered = .returned (.ok output))
    (hm : Account.Midway env.discipline processors output done p rest input)
    (hu : c.Underway x₀ rest.length output.failure?)
    (he : p.ending (env.discipline done.length) input = .returned r)
    (hh : c.handed = done ++ [.process p input]) (hk : c.kept = [])
    (hr : c.ran = env.taken 0 c.handed) :
    OnTrack env x₀ processors gathered
      ({ c with execution := (c.execution.processed rest r).1 }.perform env
        (c.execution.processed rest r).2) := by
  obtain ⟨hover, hpath, hhandler, hparks⟩ := hu
  subst ho
  cases r with
  | error error =>
    have ha := account_of_last x₀ hm he (.inr fun made h => by cases h)
    rw [Execution.processed_error hparks error, hhandler]
    refine onTrack_close (passive_calls _ _) hover ?_ ?_ hk hr
    · rw [ha]
      exact Execution.processed_stage _ _ _
    · rw [ha, hh]
      rfl
  | ok made =>
    cases rest with
    | nil =>
      have ha := account_of_last x₀ hm he (.inl rfl)
      rw [Execution.processed_ok_nil hparks made, hpath, hhandler]
      refine onTrack_close (passive_closing _ _ _ _) hover ?_ ?_ hk hr
      · rw [ha]
        exact Execution.processed_stage _ _ _
      · rw [ha, hh]
        rfl
    | cons q rest =>
      obtain ⟨ha, hparks'⟩ := Execution.processed_ok_cons hparks made
      have hhandler' : (c.execution.processed (q :: rest) (.ok made)).1.notifier.handler =
          x₀.notifier.handler := by
        rw [← hhandler, Execution.processed_handler]
      have hm' := hm.next he
      rw [← hh] at hm'
      rw [ha]
      exact onTrack_hand rfl hm' ⟨hover, hpath, hhandler', hparks'⟩
        (Execution.processed_stage _ _ _) hk hr

/-! What each kind of move preserves. -/

namespace OnTrack

private theorem send {c : Course ρ} (h : OnTrack env x₀ processors gathered c)
    (position : Nat) : OnTrack env x₀ processors gathered (c.send position) := by
  unfold Course.send
  split
  next statement hp _ =>
    have hm := List.mem_of_getElem? hp
    cases h with
    | gathering hx hg hh hk hr => exact .gathering hx (hg.send hp) hh hk hr
    | running _ _ hu => cases hu.ended _ hm
    | processed _ _ hu => cases hu.ended _ hm
    | concluded ho => cases ho _ hm
  next => exact h

private theorem finish {c : Course ρ} {position : Nat} {p : Progress}
    (h : OnTrack env x₀ processors gathered c) (hp : c.requests[position]? = some p)
    (hne : p ≠ .ended) :
    OnTrack env x₀ processors gathered (c.finish position (env.outcome position)) := by
  have hm := List.mem_of_getElem? hp
  cases h with
  | running _ _ hu => exact absurd (hu.ended _ hm) hne
  | processed _ _ hu => exact absurd (hu.ended _ hm) hne
  | concluded ho => exact absurd (ho _ hm) hne
  | @gathering g hx hg hh hk hran =>
    have hs : c.execution.stage = .gathering g processors := by rw [hx]
    have ht : c.execution.translator = x₀.translator := by rw [hx]
    cases g with
    | known r =>
      generalize hq : c.requests = requests at hg hp
      cases hg
      simp at hp
    | fanOut slots =>
      refine .gathering ?_ (hg.finish_fanOut hp hne) hh hk hran
      simp only [Course.finish, tell, Execution.handle, Execution.resolve, hs, ht]
      rw [hx]
    | single result? =>
      generalize hq : c.requests = requests at hg hp
      cases hg with
      | single r =>
        obtain ⟨hi, he⟩ := List.getElem?_eq_some_iff.mp hp
        obtain rfl : position = 0 := by simpa using hi
        exact absurd he.symm hne
      | @awaited _ q hq' hg =>
        obtain ⟨hi, -⟩ := List.getElem?_eq_some_iff.mp hp
        obtain rfl : position = 0 := by simpa using hi
        have hr : (c.finish 0 (env.outcome 0)).requests = [.ended] := by
          simp only [Course.finish, tell, hq]
          rfl
        have hx' : (c.finish 0 (env.outcome 0)).execution =
            c.execution.resolve 0 (env.outcome 0) := rfl
        cases ho : env.outcome 0 with
        | answered reply =>
          rw [ho] at hg hr hx'
          cases hg
          refine .gathering ?_ (hr ▸ Gathers.single (.ok reply)) hh hk hran
          rw [hx', Execution.resolve, hs, hx]
        | failed failure =>
          rw [ho] at hg hr hx'
          cases hg
          refine .gathering ?_ (hr ▸ Gathers.single (.error _)) hh hk hran
          rw [hx', Execution.resolve, hs, hx]
        | panicked message =>
          rw [ho] at hg hr hx'
          cases hg
          refine .concluded ?_ ?_ hh ?_ ?_
          · unfold AllEnded
            rw [hr]
            simp
          · rw [hx', Execution.resolve, hs]
            rfl
          · exact congrArg (List.filterMap Action.process?) hk
          · change c.ran.filterMap Action.process? = (env.taken 0 c.handed).filterMap _
            rw [hran, hh]
            rfl
        | cancelled =>
          rw [ho] at hg
          cases hg

private theorem resolve {c : Course ρ} (h : OnTrack env x₀ processors gathered c)
    (position : Nat) : OnTrack env x₀ processors gathered (c.resolve env position) := by
  unfold Course.resolve
  split
  next hp => exact h.finish hp (by decide)
  next hp ho => exact ho ▸ h.finish hp (by decide)
  next => exact h

private theorem poll {c : Course ρ}
    (hf : x₀.notifier = .ofLevels x₀.notifier.handler processors.length)
    (h : OnTrack env x₀ processors gathered c) :
    OnTrack env x₀ processors gathered (c.poll env) := by
  cases hw : c.execution.awaitsRequest with
  | true =>
    rw [poll_of_awaitsRequest env hw]
    exact h.send 0
  | false =>
    have hidle : c.execution.poll = (c.execution, []) →
        OnTrack env x₀ processors gathered (c.poll env) := by
      intro hp
      rw [poll_of_not_awaitsRequest env hw, hp]
      exact h
    cases h with
    | @gathering g hx hg hh hk hran =>
      have hs : c.execution.stage = .gathering g processors := by rw [hx]
      cases hr : g.result? with
      | none => exact hidle (Execution.poll_gathering_none hs hr)
      | some r =>
        rw [poll_of_not_awaitsRequest env hw, Execution.poll_gathering hs hr]
        exact onTrack_gathered hf hx hg hr hh hk hran
    | running _ _ _ hx => exact hidle (Execution.poll_running hx)
    | processed ho hm hu hx he hh hk hran =>
      rw [poll_of_not_awaitsRequest env hw, Execution.poll_processing hx]
      exact onTrack_processed ho hm hu he hh hk hran
    | concluded _ hx =>
      refine hidle ?_
      cases he : (account env x₀ processors gathered).ending with
      | returned r => simp only [Execution.poll, hx, he, Stage.ofEnding]
      | panicked message => simp only [Execution.poll, hx, he, Stage.ofEnding]

private theorem runKept {c : Course ρ} {index : Nat} {task : Action ρ}
    (h : OnTrack env x₀ processors gathered c) (hi : c.kept[index]? = some task) :
    OnTrack env x₀ processors gathered
      (({ c with kept := c.kept.eraseIdx index }.runTask task).1) := by
  cases h with
  | gathering _ _ _ hk => simp [hk] at hi
  | processed _ _ _ _ _ _ hk => simp [hk] at hi
  | concluded ho hx hh hk hr =>
    have hpassive := List.filterMap_eq_nil_iff.mp hk
    have ht := hpassive task (List.mem_of_getElem? hi)
    rw [runTask_passive _ ht]
    refine .concluded ho hx hh ?_ ?_
    · exact List.filterMap_eq_nil_iff.mpr fun other h =>
        hpassive other (List.mem_of_mem_eraseIdx h)
    · change (c.ran ++ [task]).filterMap Action.process? = _
      rw [List.filterMap_append, List.filterMap_cons, ht, List.filterMap_nil, List.append_nil]
      exact hr
  | @running output input done p rest ho hm hu hx hd hh hk hr =>
    obtain ⟨hl, he⟩ := List.getElem?_eq_some_iff.mp hi
    obtain rfl : index = 0 := by simpa [hk] using hl
    obtain rfl : task = .process p input := by simpa [hk] using he.symm
    let ran := { c with kept := c.kept.eraseIdx 0, ran := c.ran ++ [Action.process p input] }
    have hk' : ran.kept = [] := by simp only [ran, hk, List.eraseIdx_cons_zero]
    have hr' : ran.ran = env.taken 0 ran.handed := by
      simp [ran, hh, hr, Environment.taken_append, Environment.taken, hd]
    cases hp : p.run input with
    | returned r =>
      have hc : ({ c with kept := c.kept.eraseIdx 0 }.runTask (.process p input)).1 =
          ran.tell (.processed r) := by simp only [runTask, hp, ran]
      rw [hc]
      exact onTrack_tell ho hm ⟨hu.ended, hu.path, hu.handler, hu.parks⟩ hx
        (by simp only [Processor.ending, hd, hp]) hh hk' hr'
    | panicked message =>
      have hc : ({ c with kept := c.kept.eraseIdx 0 }.runTask (.process p input)).1 =
          ran.tell (.processed (.error .taskDropped)) := by
        simp only [runTask, hp, ran]
        rfl
      rw [hc]
      exact onTrack_tell ho hm ⟨hu.ended, hu.path, hu.handler, hu.parks⟩ hx
        (by simp only [Processor.ending, hd, hp]) hh hk' hr'

theorem step {c : Course ρ}
    (hf : x₀.notifier = .ofLevels x₀.notifier.handler processors.length)
    (h : OnTrack env x₀ processors gathered c) (move : Move) :
    OnTrack env x₀ processors gathered (c.step env move) := by
  cases move with
  | poll => exact h.poll hf
  | send position =>
    simp only [Course.step]
    split
    next => exact h
    next => exact h.send position
  | resolve position => exact h.resolve position
  | run index =>
    simp only [Course.step]
    split
    next task hk => exact h.runKept hk
    next => exact h

theorem run {c : Course ρ}
    (hf : x₀.notifier = .ofLevels x₀.notifier.handler processors.length)
    (h : OnTrack env x₀ processors gathered c) (moves : List Move) :
    OnTrack env x₀ processors gathered (c.run env moves) :=
  run_induction (fun _ move hc => hc.step hf move) h moves

end OnTrack

end Course
end CqlOperations
