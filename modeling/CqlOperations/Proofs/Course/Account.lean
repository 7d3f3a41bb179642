import CqlOperations.Proofs.Course.Settling

/-! What an execution comes to, apart from any schedule: the tasks it hands over and its end, from
how the requests end, what the processors make of it and what the executor does with their tasks. -/
namespace CqlOperations

variable {ρ : Type}

/-- What a step comes to. A panic is lost on whoever runs the task, which is the execution itself if
the task runs on the spot. -/
def Processor.ending (p : Processor ρ) (d : Discipline) (input : Output ρ) :
    Outcome (Result ρ) :=
  match d, p.run input with
  | .drops, _ => .returned (.error .taskDropped)
  | _, .returned result => .returned result
  | .runs, .panicked message => .panicked message
  | .keeps, .panicked _ => .returned (.error .taskDropped)

/-- Those of some tasks that the executor does not drop, the first one coming after `i` others. -/
def Environment.taken (env : Environment ρ) : Nat → List (Action ρ) → List (Action ρ)
  | _, [] => []
  | i, task :: rest =>
    if env.discipline i = .drops then env.taken (i + 1) rest
    else task :: env.taken (i + 1) rest

/-- An executor that runs every task, now or later. -/
def Environment.RunsAll (env : Environment ρ) : Prop :=
  ∀ i, env.discipline i ≠ .drops

theorem Environment.taken_append (env : Environment ρ) (i : Nat) (first rest : List (Action ρ)) :
    env.taken i (first ++ rest) = env.taken i first ++ env.taken (i + first.length) rest := by
  induction first generalizing i with
  | nil => rfl
  | cons task more ih =>
    have hl : i + (task :: more).length = i + 1 + more.length := by
      rw [List.length_cons]; omega
    simp only [List.cons_append, taken, hl, ih (i + 1)]
    split <;> rfl

theorem Environment.mem_of_mem_taken {env : Environment ρ} {i : Nat} {tasks : List (Action ρ)}
    {task : Action ρ} (h : task ∈ env.taken i tasks) : task ∈ tasks := by
  induction tasks generalizing i with
  | nil => exact h
  | cons first rest ih =>
    simp only [taken] at h
    split at h
    next => exact List.mem_cons_of_mem _ (ih h)
    next =>
      rcases List.mem_cons.mp h with rfl | h
      · exact List.mem_cons_self
      · exact List.mem_cons_of_mem _ (ih h)

theorem Environment.RunsAll.taken {env : Environment ρ} (h : env.RunsAll) (i : Nat)
    (tasks : List (Action ρ)) : env.taken i tasks = tasks := by
  induction tasks generalizing i with
  | nil => rfl
  | cons task rest ih => simp only [Environment.taken, if_neg (h i), ih]

/-- Tasks in the order they are handed over, and the end they lead to. -/
structure Account (ρ : Type) where
  tasks : List (Action ρ)
  ending : Outcome (Result ρ)

namespace Account

/-- The processors on an output, the first one's task coming after `i` others. -/
def processing (d : Nat → Discipline) : Nat → List (Processor ρ) → Output ρ → Account ρ
  | _, [], output => ⟨[], .returned (.ok output)⟩
  | i, p :: rest, input =>
    match p.ending (d i) input with
    | .returned (.ok output) =>
      let more := processing d (i + 1) rest output
      ⟨.process p input :: more.tasks, more.ending⟩
    | ending => ⟨[.process p input], ending⟩

/-- What is handed over after the processors. -/
def closing (path : Path) (handler : Option Handler) (failure? : Option OperationError) :
    Outcome (Result ρ) → List (Action ρ)
  | .returned r => Action.closing path handler failure? r
  | .panicked _ => []

/-- The whole execution, whose requests come to `gathered`. -/
def ofGathered (d : Nat → Discipline) (path : Path) (handler : Option Handler)
    (processors : List (Processor ρ)) (gathered : Outcome (Result ρ)) : Account ρ :=
  match gathered with
  | .panicked message => ⟨[], .panicked message⟩
  | .returned (.error error) =>
    ⟨Action.failing path handler error, .returned (.error error)⟩
  | .returned (.ok output) =>
    let steps := processing d 0 processors output
    ⟨steps.tasks ++ closing path handler output.failure? steps.ending, steps.ending⟩

theorem processing_cons_ok {d : Nat → Discipline} {i : Nat} {p : Processor ρ}
    {rest : List (Processor ρ)} {input output : Output ρ}
    (hp : p.ending (d i) input = .returned (.ok output)) :
    processing d i (p :: rest) input =
      ⟨.process p input :: (processing d (i + 1) rest output).tasks,
        (processing d (i + 1) rest output).ending⟩ := by
  rw [processing, hp]

theorem processing_cons_stop {d : Nat → Discipline} {i : Nat} {p : Processor ρ}
    {rest : List (Processor ρ)} {input : Output ρ} {ending : Outcome (Result ρ)}
    (hp : p.ending (d i) input = ending) (he : ∀ output, ending ≠ .returned (.ok output)) :
    processing d i (p :: rest) input = ⟨[.process p input], ending⟩ := by
  rw [processing, hp]
  split
  next output => exact absurd rfl (he output)
  next => rfl

theorem exists_tasks_processing_cons (d : Nat → Discipline) (i : Nat) (p : Processor ρ)
    (rest : List (Processor ρ)) (input : Output ρ) :
    ∃ more, (processing d i (p :: rest) input).tasks = .process p input :: more := by
  unfold processing
  split <;> exact ⟨_, rfl⟩

/-- The account of some processors on `output` has come to the task of `p` on `input`, after the
tasks in `done`. -/
structure Midway (d : Nat → Discipline) (processors : List (Processor ρ)) (output : Output ρ)
    (done : List (Action ρ)) (p : Processor ρ) (rest : List (Processor ρ)) (input : Output ρ) :
    Prop where
  tasks : (processing d 0 processors output).tasks =
    done ++ (processing d done.length (p :: rest) input).tasks
  ending : (processing d 0 processors output).ending =
    (processing d done.length (p :: rest) input).ending

namespace Midway

variable {d : Nat → Discipline} {processors : List (Processor ρ)} {output : Output ρ}
  {done : List (Action ρ)} {p : Processor ρ} {rest : List (Processor ρ)} {input : Output ρ}

theorem first (d : Nat → Discipline) (p : Processor ρ) (rest : List (Processor ρ))
    (output : Output ρ) : Midway d (p :: rest) output [] p rest output :=
  ⟨rfl, rfl⟩

/-- A processor that succeeds hands over to the next one. -/
theorem next {q : Processor ρ} {made : Output ρ}
    (h : Midway d processors output done p (q :: rest) input)
    (hp : p.ending (d done.length) input = .returned (.ok made)) :
    Midway d processors output (done ++ [.process p input]) q rest made := by
  have hl : (done ++ [Action.process p input]).length = done.length + 1 := by simp
  obtain ⟨ht, he⟩ := h
  rw [processing_cons_ok hp, ← hl] at ht he
  refine ⟨?_, he⟩
  rw [ht, List.append_assoc]
  rfl

/-- The account ends with a processor that does not succeed, or with the last one. -/
theorem last {ending : Outcome (Result ρ)}
    (h : Midway d processors output done p rest input)
    (hp : p.ending (d done.length) input = ending)
    (hl : rest = [] ∨ ∀ made, ending ≠ .returned (.ok made)) :
    processing d 0 processors output = ⟨done ++ [.process p input], ending⟩ := by
  obtain ⟨ht, he⟩ := h
  have hs : processing d done.length (p :: rest) input = ⟨[.process p input], ending⟩ := by
    by_cases ho : ∃ made, ending = .returned (.ok made)
    · obtain ⟨made, rfl⟩ := ho
      obtain rfl := hl.resolve_right fun h => h made rfl
      exact processing_cons_ok hp
    · exact processing_cons_stop hp fun made h => ho ⟨made, h⟩
  rw [hs] at ht he
  calc
    processing d 0 processors output =
        ⟨(processing d 0 processors output).tasks, (processing d 0 processors output).ending⟩ := rfl
    _ = ⟨done ++ [.process p input], ending⟩ := by rw [ht, he]

end Midway
end Account
end CqlOperations
