import CqlOperations.Operation
import CqlOperations.Proofs.Course

/-! What the requests of an execution come to together, and how much of it is there. -/
namespace CqlOperations

variable {σ ρ : Type}

/-- What a single statement comes to. Its request runs on the task of the execution, so it cannot be
cancelled alone. -/
def Resolution.alone? (t : Translator) : Resolution ρ → Option (Outcome (Result ρ))
  | .answered reply => some (.returned (.ok (.reply reply)))
  | .failed failure => some (.returned (.error (t.translateFailure failure)))
  | .panicked message => some (.panicked message)
  | .cancelled => none

/-- The slots of `n` requests, by position. -/
def BatchResult.ofOutcomes (t : Translator) (outcome : Nat → Resolution ρ) (n : Nat) :
    BatchResult ρ :=
  ⟨(List.range n).map fun i => Slot.ofResolution t (outcome i)⟩

/-- What the requests of `n` statements come to. -/
def Base.gathered? (b : Base σ ρ) (t : Translator) (outcome : Nat → Resolution ρ) (n : Nat) :
    Option (Outcome (Result ρ)) :=
  match b with
  | .single _ => (outcome 0).alone? t
  | .fanOut _ _ => some (.returned (.ok (.batch (.ofOutcomes t outcome n))))
  | .known _ result => some (.returned result)

@[simp] theorem BatchResult.size_ofOutcomes (t : Translator) (outcome : Nat → Resolution ρ)
    (n : Nat) : (ofOutcomes t outcome n).slots.length = n := by
  simp [ofOutcomes]

theorem BatchResult.getElem?_ofOutcomes (t : Translator) (outcome : Nat → Resolution ρ)
    {n i : Nat} (hi : i < n) :
    (ofOutcomes t outcome n).slots[i]? = some (Slot.ofResolution t (outcome i)) := by
  simp [ofOutcomes, hi]

theorem BatchResult.ofResolution_of_getElem? {t : Translator} {outcome : Nat → Resolution ρ}
    {n i : Nat} {slot : Slot ρ} (h : (ofOutcomes t outcome n).slots[i]? = some slot) :
    Slot.ofResolution t (outcome i) = slot := by
  obtain ⟨hi, -⟩ := List.getElem?_eq_some_iff.mp h
  rw [size_ofOutcomes] at hi
  rw [getElem?_ofOutcomes t outcome hi] at h
  exact Option.some.inj h

/-- Of the slots that failed the one of lowest position has this error. -/
def BatchResult.FirstFailed (b : BatchResult ρ) (error : OperationError) : Prop :=
  ∃ i : Nat, b.slots[i]? = some (.failed error) ∧
    ∀ j < i, ∀ other, b.slots[j]? ≠ some (.failed other)

theorem Slot.error?_eq_some {slot : Slot ρ} {error : OperationError} :
    slot.error? = some error ↔ slot = .failed error := by
  cases slot <;> simp [error?]

theorem BatchResult.firstFailure?_eq_some {b : BatchResult ρ} {error : OperationError} :
    b.firstFailure? = some error ↔ b.FirstFailed error := by
  obtain ⟨slots⟩ := b
  unfold firstFailure? FirstFailed
  dsimp only
  constructor
  · intro h
    obtain ⟨before, slot, after, rfl, hs, hb⟩ := List.findSome?_eq_some_iff.mp h
    rw [Slot.error?_eq_some] at hs
    subst hs
    refine ⟨before.length, by simp, fun j hj other ho => ?_⟩
    rw [List.getElem?_append_left hj] at ho
    have hn := hb _ (List.mem_of_getElem? ho)
    cases hn
  · rintro ⟨i, hi, hj⟩
    obtain ⟨hl, he⟩ := List.getElem?_eq_some_iff.mp hi
    refine List.findSome?_eq_some_iff.mpr
      ⟨slots.take i, .failed error, slots.drop (i + 1), ?_, rfl, ?_⟩
    · rw [← he, List.getElem_cons_drop, List.take_append_drop]
    · intro slot hs
      obtain ⟨j, hjl, rfl⟩ := List.mem_take_iff_getElem.mp hs
      cases hslot : slots[j] with
      | failed other =>
        refine absurd ?_ (hj j (by omega) other)
        rw [List.getElem?_eq_getElem (by omega), hslot]
      | ok value => rfl
      | absent => rfl

theorem BatchResult.firstFailure?_eq_none {b : BatchResult ρ}
    (h : ∀ error, ¬ b.FirstFailed error) : b.firstFailure? = none := by
  cases hf : b.firstFailure? with
  | none => rfl
  | some error => exact absurd (firstFailure?_eq_some.mp hf) (h error)

/-- Of the slots without a value the one of lowest position has this error. -/
def BatchResult.FirstWithout (b : BatchResult ρ) (error : OperationError) : Prop :=
  ∃ (i : Nat) (slot : Slot ρ), b.slots[i]? = some slot ∧ slot.toExcept i = .error error ∧
    ∀ j < i, ∃ value, b.slots[j]? = some (.ok value)

theorem Slot.toExcept_eq_ok {slot : Slot ρ} {position : Nat} {value : ρ} :
    slot.toExcept position = .ok value ↔ slot = .ok value := by
  cases slot <;> simp [toExcept]

theorem BatchResult.collect_cons_error {position : Nat} {slot : Slot ρ} {error : OperationError}
    (hs : slot.toExcept position = .error error) (rest : List (Slot ρ)) :
    collect position (slot :: rest) = .error error := by
  simp only [collect, hs, bind, Except.bind]

/-- A value does not hide an error of the slots after it. -/
theorem BatchResult.collect_cons_ok {position : Nat} {slot : Slot ρ} {value : ρ}
    (hs : slot.toExcept position = .ok value) {rest : List (Slot ρ)} {error : OperationError} :
    collect position (slot :: rest) = .error error ↔
      collect (position + 1) rest = .error error := by
  simp only [collect, hs, bind, Except.bind]
  cases collect (position + 1) rest <;> simp [pure, Except.pure]

theorem BatchResult.collect_eq_error {position : Nat} {slots : List (Slot ρ)}
    {error : OperationError} :
    collect position slots = .error error ↔ ∃ (i : Nat) (slot : Slot ρ), slots[i]? = some slot ∧
      slot.toExcept (position + i) = .error error ∧
        ∀ j < i, ∃ value, slots[j]? = some (.ok value) := by
  induction slots generalizing position with
  | nil => simp [collect]
  | cons slot rest ih =>
    cases hs : slot.toExcept position with
    | error other =>
      rw [collect_cons_error hs]
      constructor
      · rintro ⟨⟩
        exact ⟨0, slot, rfl, hs, nofun⟩
      · rintro ⟨i, found, hi, he, hb⟩
        cases i with
        | zero =>
          cases hi
          rw [Nat.add_zero, hs] at he
          cases he
          rfl
        | succ i =>
          obtain ⟨value, hv⟩ := hb 0 (Nat.zero_lt_succ i)
          cases hv
          cases hs
    | ok value =>
      rw [collect_cons_ok hs, ih]
      constructor
      · rintro ⟨i, found, hi, he, hb⟩
        refine ⟨i + 1, found, hi, by rwa [← Nat.add_assoc, Nat.add_right_comm], fun j hj => ?_⟩
        cases j with
        | zero => exact ⟨value, congrArg some (Slot.toExcept_eq_ok.mp hs)⟩
        | succ j => exact hb j (Nat.lt_of_succ_lt_succ hj)
      · rintro ⟨i, found, hi, he, hb⟩
        cases i with
        | zero =>
          cases hi
          rw [Nat.add_zero, hs] at he
          cases he
        | succ i =>
          exact ⟨i, found, hi, by rwa [Nat.add_right_comm, Nat.add_assoc],
            fun j hj => hb (j + 1) (Nat.succ_lt_succ hj)⟩

theorem BatchResult.toExcept_eq_error {b : BatchResult ρ} {error : OperationError} :
    b.toExcept = .error error ↔ b.FirstWithout error := by
  rw [toExcept, collect_eq_error]
  simp only [Nat.zero_add, FirstWithout]

theorem Gathering.settled?_eq_some {slots : List (Option (Slot ρ))} {known : List (Slot ρ)}
    (h : settled? slots = some known) : slots = known.map some := by
  induction slots generalizing known with
  | nil => cases h; rfl
  | cons slot rest ih =>
    cases slot with
    | none => cases h
    | some slot =>
      obtain ⟨more, hm, rfl⟩ := Option.map_eq_some_iff.mp h
      rw [ih hm]
      rfl

theorem Gathering.settled?_map_some (known : List (Slot ρ)) :
    settled? (known.map some) = some known := by
  induction known with
  | nil => rfl
  | cons slot rest ih => simp only [List.map_cons, settled?, ih, Option.map_some]

/-- The slot of a request that is over. -/
def Progress.slot? (t : Translator) (r : Resolution ρ) : Progress → Option (Slot ρ)
  | .ended => some (.ofResolution t r)
  | _ => none

/-- How much of `gathered` is there, given where the requests stand. -/
inductive Gathers (t : Translator) (outcome : Nat → Resolution ρ) :
    Outcome (Result ρ) → List Progress → Gathering ρ → Prop where
  | known (result : Result ρ) : Gathers t outcome (.returned result) [] (.known result)
  | awaited {gathered : Outcome (Result ρ)} {p : Progress} (hp : p ≠ .ended)
      (hg : (outcome 0).alone? t = some gathered) :
      Gathers t outcome gathered [p] (.single none)
  | single (result : Except OperationError ρ) :
      Gathers t outcome (.returned (result.map .reply)) [.ended] (.single (some result))
  | fanOut {requests : List Progress} {slots : List (Option (Slot ρ))}
      (hs : ∀ i : Nat, slots[i]? = requests[i]?.map (Progress.slot? t (outcome i))) :
      Gathers t outcome
        (.returned (.ok (.batch (.ofOutcomes t outcome requests.length)))) requests
        (.fanOut slots)

namespace Gathers

variable {t : Translator} {outcome : Nat → Resolution ρ} {gathered : Outcome (Result ρ)}
  {requests : List Progress} {g : Gathering ρ}

private theorem slots_eq_of_over {slots : List (Option (Slot ρ))}
    (hs : ∀ i : Nat, slots[i]? = requests[i]?.map (Progress.slot? t (outcome i)))
    (ho : ∀ p ∈ requests, p = .ended) :
    slots = (BatchResult.ofOutcomes t outcome requests.length).slots.map some := by
  apply List.ext_getElem?
  intro i
  rw [hs, List.getElem?_map]
  cases hp : requests[i]? with
  | none =>
    have hl := List.getElem?_eq_none_iff.mp hp
    rw [Option.map_none, List.getElem?_eq_none (by simpa using hl), Option.map_none]
  | some p =>
    obtain ⟨hi, -⟩ := List.getElem?_eq_some_iff.mp hp
    rw [BatchResult.getElem?_ofOutcomes t outcome hi, ho p (List.mem_of_getElem? hp)]
    rfl

private theorem over_of_settled? {slots : List (Option (Slot ρ))} {known : List (Slot ρ)}
    (hs : ∀ i : Nat, slots[i]? = requests[i]?.map (Progress.slot? t (outcome i)))
    (hk : Gathering.settled? slots = some known) : ∀ p ∈ requests, p = .ended := by
  intro p hp
  obtain ⟨i, hi⟩ := List.mem_iff_getElem?.mp hp
  have hslot := hs i
  rw [hi, Gathering.settled?_eq_some hk, List.getElem?_map] at hslot
  obtain ⟨slot, -, he⟩ := Option.map_eq_some_iff.mp hslot
  cases p with
  | ended => rfl
  | spawned => cases he
  | sent => cases he

/-- What is there is what the requests come to, and all of them are over then. -/
theorem of_result? {result : Result ρ} (h : Gathers t outcome gathered requests g)
    (hr : g.result? = some result) :
    gathered = .returned result ∧ ∀ p ∈ requests, p = .ended := by
  cases h with
  | known r =>
    cases hr
    exact ⟨rfl, by simp⟩
  | awaited => cases hr
  | single r =>
    cases hr
    exact ⟨rfl, by simp⟩
  | @fanOut _ slots hs =>
    obtain ⟨known, hk, rfl⟩ := Option.map_eq_some_iff.mp hr
    have ho := over_of_settled? hs hk
    rw [slots_eq_of_over hs ho, Gathering.settled?_map_some] at hk
    cases hk
    exact ⟨rfl, ho⟩

/-- Once all requests are over the result is there. -/
theorem result?_of_over (h : Gathers t outcome gathered requests g)
    (ho : ∀ p ∈ requests, p = .ended) : ∃ result, g.result? = some result := by
  cases h with
  | known r => exact ⟨r, rfl⟩
  | awaited hp => exact absurd (ho _ (by simp)) hp
  | single r => exact ⟨_, rfl⟩
  | @fanOut _ slots hs =>
    rw [slots_eq_of_over hs ho, Gathering.result?, Gathering.settled?_map_some]
    exact ⟨_, rfl⟩

/-- A single statement has one request. -/
theorem length_eq_of_single {result? : Option (Except OperationError ρ)}
    (h : Gathers t outcome gathered requests (.single result?)) : requests.length = 1 := by
  cases h with
  | awaited => rfl
  | single => rfl

/-- Sending a statement brings nothing. -/
theorem send {position : Nat} (h : Gathers t outcome gathered requests g)
    (hp : requests[position]? = some .spawned) :
    Gathers t outcome gathered (requests.set position .sent) g := by
  cases h with
  | known r => simp at hp
  | @awaited _ p hne hg =>
    obtain ⟨hi, -⟩ := List.getElem?_eq_some_iff.mp hp
    obtain rfl : position = 0 := by simpa using hi
    exact .awaited (by decide) hg
  | single r =>
    obtain ⟨hi, he⟩ := List.getElem?_eq_some_iff.mp hp
    obtain rfl : position = 0 := by simpa using hi
    cases he
  | @fanOut _ slots hs =>
    have hl : (requests.set position .sent).length = requests.length := List.length_set ..
    rw [← hl]
    refine .fanOut fun i => ?_
    rw [hs, List.getElem?_set]
    split
    next hi =>
      subst hi
      obtain ⟨hl, -⟩ := List.getElem?_eq_some_iff.mp hp
      rw [hp, if_pos hl]
      rfl
    next => rfl

/-- A request of its own that ends brings its slot, and no other one. -/
theorem finish_fanOut {slots : List (Option (Slot ρ))} {position : Nat} {p : Progress}
    (h : Gathers t outcome gathered requests (.fanOut slots))
    (hp : requests[position]? = some p) (hne : p ≠ .ended) :
    Gathers t outcome gathered (requests.set position .ended)
      (.fanOut (slots.modify position fun old =>
        old.or (some (Slot.ofResolution t (outcome position))))) := by
  cases h with
  | fanOut hs =>
    have hl : (requests.set position .ended).length = requests.length := List.length_set ..
    rw [← hl]
    refine .fanOut fun i => ?_
    rw [List.getElem?_modify, hs, List.getElem?_set]
    split
    next hi =>
      subst hi
      obtain ⟨hl, -⟩ := List.getElem?_eq_some_iff.mp hp
      rw [hp, if_pos hl]
      cases p with
      | ended => exact absurd rfl hne
      | spawned => rfl
      | sent => rfl
    next => exact id_map' _

end Gathers
end CqlOperations
