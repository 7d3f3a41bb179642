import CqlOperations.Proofs.Terms

/-! Chains of notifiers, whatever they are called with and in whatever order. The state of a chain is
what its past says: on each level the first error that arrived there. -/
namespace CqlOperations.Notifier

/-- One more level on top of a chain. It keeps nothing yet. -/
def hold (n : Notifier) : Notifier :=
  { n with held := n.held ++ [none] }

/-- What a notifier of a chain is called with. Clones of a notifier share its level; a release goes
from the level above to `level`. -/
inductive Call where
  | hold
  | notify (level : Nat) (error : OperationError)
  | release (level : Nat)

def call (n : Notifier) : Call → Notifier × List Report
  | .hold => (n.hold, [])
  | .notify level error => n.notify error level
  | .release level => n.release level

def callAll (n : Notifier) : List Call → Notifier × List Report
  | [] => (n, [])
  | c :: rest =>
    let (n, first) := n.call c
    let (n, more) := callAll n rest
    (n, first ++ more)

/-- What happened to a chain: how many levels were put on top of the reporting one, and which error
arrived at which level, in order. -/
structure Past where
  levels : Nat := 0
  arrived : List (Nat × OperationError) := []

namespace Past

/-- The first error that arrived at a level. -/
def first? (p : Past) (level : Nat) : Option OperationError :=
  p.arrived.lookup level

def arrive (p : Past) (level : Nat) (error : OperationError) : Past :=
  { p with arrived := p.arrived ++ [(level, error)] }

/-- Errors arrive at the levels that are there: directly, or released from the level above, which
gives away the first one that arrived there. -/
def after (p : Past) : Call → Past
  | .hold => { p with levels := p.levels + 1 }
  | .notify level error => if level ≤ p.levels then p.arrive level error else p
  | .release level =>
    match p.first? (level + 1) with
    | some error => p.arrive level error
    | none => p

def afterAll (p : Past) (calls : List Call) : Past :=
  calls.foldl after p

/-- Nothing arrived at a level that is not there. -/
def Bounded (p : Past) : Prop :=
  ∀ level, p.levels < level → p.first? level = none

variable {p : Past}

@[simp] theorem levels_arrive (p : Past) (level : Nat) (error : OperationError) :
    (p.arrive level error).levels = p.levels := rfl

theorem first?_arrive (p : Past) (level other : Nat) (error : OperationError) :
    (p.arrive level error).first? other =
      (p.first? other).or (if other = level then some error else none) := by
  simp only [first?, arrive, List.lookup_append, List.lookup_cons, List.lookup_nil]
  by_cases h : other = level
  · simp [h]
  · simp [h, beq_false_of_ne h]

theorem le_of_first?_eq_some (hp : p.Bounded) {level : Nat} {error : OperationError}
    (h : p.first? level = some error) : level ≤ p.levels := by
  refine Nat.le_of_not_lt fun hlt => ?_
  rw [hp level hlt] at h
  cases h

theorem Bounded.arrive (hp : p.Bounded) {level : Nat} (hl : level ≤ p.levels)
    (error : OperationError) : (p.arrive level error).Bounded := by
  intro other hother
  have hne : other ≠ level := by
    rintro rfl
    exact absurd hl (Nat.not_le_of_lt hother)
  rw [first?_arrive, hp other hother, if_neg hne, Option.or_none]

theorem Bounded.after (hp : p.Bounded) (c : Call) : (p.after c).Bounded := by
  cases c with
  | hold => exact fun level hl => hp level (Nat.lt_of_succ_lt hl)
  | notify level error =>
    unfold Past.after
    dsimp only
    split
    next hl => exact hp.arrive hl error
    next => exact hp
  | release level =>
    unfold Past.after
    dsimp only
    split
    next error h => exact hp.arrive (Nat.le_of_succ_le (le_of_first?_eq_some hp h)) error
    next => exact hp

/-- What arrived first stays first. -/
theorem first?_after {level : Nat} {error : OperationError} (h : p.first? level = some error)
    (c : Call) : (p.after c).first? level = some error := by
  cases c with
  | hold => exact h
  | notify other error =>
    unfold after
    dsimp only
    split
    next => rw [first?_arrive, h, Option.some_or]
    next => exact h
  | release other =>
    unfold after
    dsimp only
    split
    next => rw [first?_arrive, h, Option.some_or]
    next => exact h

theorem levels_after (p : Past) (c : Call) : p.levels ≤ (p.after c).levels := by
  cases c with
  | hold => exact Nat.le_succ p.levels
  | notify level error =>
    unfold after
    dsimp only
    split <;> exact Nat.le_refl _
  | release level =>
    unfold after
    dsimp only
    split <;> exact Nat.le_refl _

theorem levels_afterAll (p : Past) (calls : List Call) : p.levels ≤ (p.afterAll calls).levels := by
  induction calls generalizing p with
  | nil => exact Nat.le_refl _
  | cons c rest ih => exact Nat.le_trans (p.levels_after c) (ih (p.after c))

theorem first?_afterAll {level : Nat} {error : OperationError} (h : p.first? level = some error)
    (calls : List Call) : (p.afterAll calls).first? level = some error := by
  induction calls generalizing p with
  | nil => exact h
  | cons c rest ih => exact ih (first?_after h c)

/-- What is reported while one past becomes another one: the first error that arrived at the
reporting level, if it arrived in between. -/
def reported (handler : Option Handler) (p later : Past) : List Report :=
  match p.first? 0 with
  | none => Report.calls handler (later.first? 0)
  | some _ => []

variable {handler : Option Handler} {middle later : Past}

theorem reported_of_eq (h : later.first? 0 = p.first? 0) : p.reported handler later = [] := by
  unfold reported
  rw [h]
  cases p.first? 0 with
  | none => exact Report.calls_none handler
  | some error => rfl

/-- What is reported in one part of a history and in the next is reported in both: an error that
arrived first in the second part did not arrive in the first one. -/
theorem reported_append (hm : ∀ error, p.first? 0 = some error → middle.first? 0 = some error)
    (hl : ∀ error, middle.first? 0 = some error → later.first? 0 = some error) :
    p.reported handler middle ++ middle.reported handler later = p.reported handler later := by
  unfold reported
  cases hp : p.first? 0 with
  | some error => rw [hm error hp]; rfl
  | none =>
    cases hf : middle.first? 0 with
    | none => rw [Report.calls_none, List.nil_append]
    | some error => rw [hl error hf, List.append_nil]

end Past

/-- The chain with this past. -/
def ofPast (handler : Option Handler) (p : Past) : Notifier where
  handler := handler
  fired := (p.first? 0).isSome
  held := (List.range p.levels).map fun level => p.first? (level + 1)

theorem getElem?_held_ofPast (handler : Option Handler) {p : Past} {level : Nat}
    (h : level < p.levels) : (ofPast handler p).held[level]? = some (p.first? (level + 1)) := by
  simp [ofPast, h]

variable {handler : Option Handler} {p : Past}

/-- An error at the reporting level is reported if it is the first one there. -/
theorem notify_ofPast_zero (handler : Option Handler) (p : Past) (error : OperationError) :
    (ofPast handler p).notify error 0 =
      (ofPast handler (p.arrive 0 error),
        if p.first? 0 = none then Report.calls handler (some error) else []) := by
  cases hf : p.first? 0 with
  | none =>
    rw [notify_zero _ error (by simp [ofPast, hf])]
    simp [ofPast, Past.first?_arrive, hf]
  | some first =>
    rw [notify_zero_of_fired _ error (by simp [ofPast, hf])]
    simp [ofPast, Past.first?_arrive, hf]

/-- An error above it is kept if it is the first one there, and not reported. -/
theorem notify_ofPast_succ (handler : Option Handler) (p : Past) (level : Nat)
    (error : OperationError) :
    (ofPast handler p).notify error (level + 1) =
      (ofPast handler (p.arrive (level + 1) error), []) := by
  have hheld : (ofPast handler p).held.modify level (fun kept => kept.or (some error)) =
      (ofPast handler (p.arrive (level + 1) error)).held := by
    apply List.ext_getElem?
    intro i
    by_cases hi : i < p.levels
    · by_cases heq : level = i <;>
        simp [ofPast, hi, Past.first?_arrive, heq, eq_comm]
    · simp [ofPast, hi]
  have hfired : (ofPast handler p).fired = (ofPast handler (p.arrive (level + 1) error)).fired := by
    simp [ofPast, Past.first?_arrive]
  rw [notify, hheld, hfired]
  rfl

/-- A level that is not there keeps nothing. -/
theorem notify_of_length_le {n : Notifier} {level : Nat} (h : n.held.length ≤ level)
    (error : OperationError) : n.notify error (level + 1) = (n, []) := by
  rw [notify, List.modify_eq_self h]

theorem hold_ofPast (handler : Option Handler) (hp : p.Bounded) :
    (ofPast handler p).hold = ofPast handler (p.after .hold) := by
  have hnew : p.first? (p.levels + 1) = none := hp _ (Nat.lt_succ_self _)
  simp only [ofPast, Past.after, List.range_succ, List.map_append, List.map_cons, List.map_nil]
  change _ = Notifier.mk handler (p.first? 0).isSome (_ ++ [p.first? (p.levels + 1)])
  rw [hnew]
  rfl

theorem notify_ofPast (handler : Option Handler) (p : Past) (level : Nat)
    (error : OperationError) :
    (ofPast handler p).notify error level =
      (ofPast handler (p.arrive level error), p.reported handler (p.arrive level error)) := by
  cases level with
  | zero =>
    rw [notify_ofPast_zero, Past.reported, Past.first?_arrive]
    cases p.first? 0 <;> rfl
  | succ level =>
    rw [notify_ofPast_succ, Past.reported_of_eq]
    rw [Past.first?_arrive, if_neg (Nat.succ_ne_zero level).symm, Option.or_none]

/-- A call takes a chain from one past to the next. -/
theorem call_ofPast (handler : Option Handler) (hp : p.Bounded) (c : Call) :
    (ofPast handler p).call c = (ofPast handler (p.after c), p.reported handler (p.after c)) := by
  have hsame : p.reported handler p = [] := Past.reported_of_eq rfl
  cases c with
  | hold =>
    have hhold : p.reported handler (p.after .hold) = [] := Past.reported_of_eq rfl
    rw [call, hold_ofPast handler hp, hhold]
  | notify level error =>
    unfold call Past.after
    dsimp only
    split
    next => exact notify_ofPast handler p level error
    next hl =>
      obtain ⟨below, rfl⟩ : ∃ below, level = below + 1 := ⟨level - 1, by omega⟩
      rw [notify_of_length_le (by simp [ofPast]; omega), hsame]
  | release level =>
    unfold call release Past.after
    dsimp only
    cases hf : p.first? (level + 1) with
    | some error =>
      have hl : level < p.levels := Past.le_of_first?_eq_some hp hf
      rw [getElem?_held_ofPast handler hl, hf]
      exact notify_ofPast handler p level error
    | none =>
      rw [hsame]
      by_cases hl : level < p.levels
      · rw [getElem?_held_ofPast handler hl, hf]
      · rw [List.getElem?_eq_none (by simp [ofPast]; omega)]

theorem callAll_cons (n : Notifier) (c : Call) (rest : List Call) :
    n.callAll (c :: rest) =
      (((n.call c).1.callAll rest).1, (n.call c).2 ++ ((n.call c).1.callAll rest).2) := rfl

/-- Whatever the calls and their order, the chain is what its past says. -/
theorem callAll_ofPast (handler : Option Handler) (hp : p.Bounded) (calls : List Call) :
    (ofPast handler p).callAll calls =
      (ofPast handler (p.afterAll calls), p.reported handler (p.afterAll calls)) := by
  induction calls generalizing p with
  | nil =>
    have hsame : p.reported handler p = [] := Past.reported_of_eq rfl
    rw [Past.afterAll, List.foldl_nil, hsame]
    rfl
  | cons c rest ih =>
    rw [callAll_cons, call_ofPast handler hp, ih (hp.after c)]
    rw [Past.reported_append (fun _ h => Past.first?_after h c)
      fun _ h => Past.first?_afterAll h rest]
    rfl

/-- What calls come to that begin with a reporting notifier alone. -/
def chain (handler : Option Handler) (calls : List Call) : Notifier × List Report :=
  (ofLevels handler 0).callAll calls

/-- What has happened to a chain after these calls. -/
def past (calls : List Call) : Past :=
  Past.afterAll {} calls

theorem bounded_past (calls : List Call) : (past calls).Bounded := by
  have h : ∀ (calls : List Call) (p : Past), p.Bounded → (p.afterAll calls).Bounded := by
    intro calls
    induction calls with
    | nil => exact fun _ hp => hp
    | cons c rest ih => exact fun p hp => ih (p.after c) (hp.after c)
  exact h calls {} fun _ _ => rfl

theorem chain_eq (handler : Option Handler) (calls : List Call) :
    chain handler calls =
      (ofPast handler (past calls), Report.calls handler ((past calls).first? 0)) := by
  have hempty : Past.Bounded {} := fun _ _ => rfl
  exact callAll_ofPast handler hempty calls

theorem first?_past_append {calls : List Call} {level : Nat} {error : OperationError}
    (h : (past calls).first? level = some error) (more : List Call) :
    (past (calls ++ more)).first? level = some error := by
  rw [past, Past.afterAll, List.foldl_append]
  exact Past.first?_afterAll h more

theorem levels_past_append (calls more : List Call) :
    (past calls).levels ≤ (past (calls ++ more)).levels := by
  rw [past, past, Past.afterAll, Past.afterAll, List.foldl_append]
  exact Past.levels_afterAll _ more

/-- What a level keeps is there and has arrived. -/
theorem held_chain_eq_some_iff {calls : List Call} {level : Nat} {kept : Option OperationError} :
    (chain handler calls).1.held[level]? = some kept ↔
      level < (past calls).levels ∧ (past calls).first? (level + 1) = kept := by
  rw [chain_eq]
  by_cases hl : level < (past calls).levels
  · rw [getElem?_held_ofPast handler hl, Option.some.injEq]
    exact (and_iff_right hl).symm
  · rw [List.getElem?_eq_none (by simp [ofPast]; omega)]
    simp [hl]

theorem ofPast_congr (handler : Option Handler) {other : Past} (hl : other.levels = p.levels)
    (hf : ∀ level, other.first? level = p.first? level) :
    ofPast handler other = ofPast handler p := by
  simp only [ofPast, hl, hf]

/-- A release to a level that something has arrived at before changes nothing. -/
theorem release_ofPast_of_arrived (handler : Option Handler) {level : Nat}
    {error : OperationError} (h : p.first? level = some error) :
    (ofPast handler p).release level = (ofPast handler p, []) := by
  unfold release
  split
  next released _ =>
    have hfirst : ∀ other, (p.arrive level released).first? other = p.first? other := by
      intro other
      rw [Past.first?_arrive]
      by_cases ho : other = level
      · rw [ho, h, Option.some_or]
      · rw [if_neg ho, Option.or_none]
    rw [notify_ofPast, Past.reported_of_eq (hfirst 0),
      ofPast_congr handler (Past.levels_arrive p level released) hfirst]
  next => rfl

/-- What is kept has arrived below once it is released. -/
theorem exists_first?_of_release {calls : List Call} {level : Nat} {error : OperationError}
    (h : (past calls).first? (level + 1) = some error) :
    ∃ first, (past (calls ++ [.release level])).first? level = some first := by
  have hpast : past (calls ++ [.release level]) = (past calls).arrive level error := by
    rw [past, Past.afterAll, List.foldl_append]
    change (past calls).after (.release level) = _
    rw [Past.after, h]
  rw [hpast, Past.first?_arrive, if_pos rfl]
  cases (past calls).first? level with
  | none => exact ⟨error, rfl⟩
  | some first => exact ⟨first, rfl⟩

/-- A holding notifier is given an error, or a new one is made. -/
def Call.Holds : Call → Prop
  | .hold => True
  | .notify level _ => level ≠ 0
  | .release level => level ≠ 0

/-- What a chain of notifiers comes to. -/
structure ChainLaw (handler : Option Handler) (calls : List Call) : Prop where
  once : (chain handler calls).2.length ≤ 1
  /-- The handler is called with the first error that arrived at the reporting notifier. -/
  reports : (chain handler calls).2 = Report.calls handler ((past calls).first? 0)
  silent : ∀ before c after, calls = before ++ c :: after → c.Holds →
    ((chain handler before).1.call c).2 = []
  /-- A holding notifier keeps the first error that arrived there. -/
  keeps : ∀ level < (past calls).levels,
    (chain handler calls).1.held[level]? = some ((past calls).first? (level + 1))
  stays : ∀ (before after : List Call) (level : Nat) (error : OperationError),
    calls = before ++ after → (chain handler before).1.held[level]? = some (some error) →
      (chain handler calls).1.held[level]? = some (some error)
  idle : ∀ (before after : List Call) (level : Nat), calls = before ++ .release level :: after →
    (chain handler before).1.held[level]? = some none →
      (chain handler before).1.call (.release level) = ((chain handler before).1, [])
  again : ∀ (before middle after : List Call) (level : Nat) (error : OperationError),
    calls = before ++ .release level :: middle ++ .release level :: after →
      (chain handler before).1.held[level]? = some (some error) →
        (chain handler (before ++ .release level :: middle)).1.call (.release level) =
          ((chain handler (before ++ .release level :: middle)).1, [])

theorem call_holds (n : Notifier) {c : Call} (h : c.Holds) : (n.call c).2 = [] := by
  cases c with
  | hold => rfl
  | notify level error =>
    obtain ⟨below, rfl⟩ := Nat.exists_eq_succ_of_ne_zero h
    rfl
  | release level =>
    obtain ⟨below, rfl⟩ := Nat.exists_eq_succ_of_ne_zero h
    unfold call release
    dsimp only
    split <;> rfl

/-- A chain of notifiers reports at most once, whatever its depth and the order of the calls: the
first error that reaches the reporting one. -/
theorem chain_law (handler : Option Handler) (calls : List Call) : ChainLaw handler calls where
  once := by
    rw [chain_eq]
    exact Report.length_calls_le _ _
  reports := by rw [chain_eq]
  silent _ _ _ _ h := call_holds _ h
  keeps _ hl := held_chain_eq_some_iff.mpr ⟨hl, rfl⟩
  stays := by
    rintro before after level error rfl h
    obtain ⟨hl, hf⟩ := held_chain_eq_some_iff.mp h
    exact held_chain_eq_some_iff.mpr
      ⟨Nat.lt_of_lt_of_le hl (levels_past_append before after), first?_past_append hf after⟩
  idle before after level _ h := by rw [call, release, h]
  again := by
    rintro before middle after level error - h
    obtain ⟨-, hf⟩ := held_chain_eq_some_iff.mp h
    obtain ⟨first, hfirst⟩ := exists_first?_of_release hf
    have harrived := first?_past_append hfirst middle
    rw [List.append_assoc, List.singleton_append] at harrived
    rw [chain_eq]
    exact release_ofPast_of_arrived handler harrived

end CqlOperations.Notifier
