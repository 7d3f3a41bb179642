import CqlOperations.Proofs.Gathering

/-! The views of a batch result agree. Each of them goes through the slots for itself; what it says
is said here by position. A slot that is absent has no value and did not fail either, so the error
of a batch as a whole need not be that of a slot that failed. -/
namespace CqlOperations

variable {α : Type}

theorem Slot.value?_eq_some {slot : Slot α} {value : α} :
    slot.value? = some value ↔ slot = .ok value := by
  cases slot <;> simp [value?]

/-- A slot without a value has an error. -/
theorem Slot.toExcept_eq_error {slot : Slot α} {position : Nat} {error : OperationError} :
    slot.toExcept position = .error error ↔ slot = .failed error ∨ slot = .absent ∧ error =
      .interrupted ("statement at position " ++ toString position ++ " produced no result") := by
  cases slot <;> simp [toExcept, OperationError.noResult, eq_comm]

theorem Slot.exists_error {slot : Slot α} (h : slot.value? = none) (position : Nat) :
    ∃ error, slot.toExcept position = .error error := by
  cases slot with
  | ok value => cases h
  | failed error => exact ⟨error, rfl⟩
  | absent => exact ⟨_, rfl⟩

namespace BatchResult

/-- All slots before `position` have values. -/
def FullBefore (b : BatchResult α) (position : Nat) : Prop :=
  ∀ i < position, ∃ value, b.slots[i]? = some (.ok value)

/-- What the views say of the slots, and of each other. -/
structure ViewsAgree (b : BatchResult α) : Prop where
  increasing : b.failedPositions.Pairwise (· < ·)
  failed : ∀ i : Nat, i ∈ b.failedPositions ↔ ∃ error, b.slots[i]? = some (.failed error)
  positions : b.failures.map Prod.fst = b.failedPositions
  errors : ∀ (i : Nat) (error : OperationError),
    (i, error) ∈ b.failures ↔ b.slots[i]? = some (.failed error)
  first : b.firstFailure? = b.failures.head?.map Prod.snd
  noFailure : b.firstFailure? = none ↔
    ∀ (i : Nat) (error : OperationError), b.slots[i]? ≠ some (.failed error)
  aligned : b.values.length = b.size
  values : ∀ (i : Nat) (value : α),
    b.values[i]? = some (some value) ↔ b.slots[i]? = some (.ok value)
  allOk : b.isAllOk = true ↔ ∃ values, b.toExcept = .ok values
  complete : b.isAllOk = true ↔ none ∉ b.values
  collected : ∀ values, b.toExcept = .ok values ↔ b.values = values.map some
  /-- The first slot without a value gives its error if it failed; if it came to nothing the error
  names its position. -/
  refused : ∀ error, b.toExcept = .error error ↔ ∃ position : Nat, b.FullBefore position ∧
    (b.slots[position]? = some (.failed error) ∨
      b.slots[position]? = some .absent ∧ error =
        .interrupted ("statement at position " ++ toString position ++ " produced no result"))
  reported : ∀ (i : Nat) (error : OperationError), b.slots[i]? = some (.failed error) →
    (∀ j < i, ∀ other, b.slots[j]? ≠ some (.failed other)) →
      (∀ j < i, b.slots[j]? ≠ some .absent) →
        b.firstFailure? = some error ∧ b.toExcept = .error error

theorem mem_failures {b : BatchResult α} {i : Nat} {error : OperationError} :
    (i, error) ∈ b.failures ↔ b.slots[i]? = some (.failed error) := by
  unfold failures
  rw [List.mem_filterMap]
  constructor
  · rintro ⟨⟨slot, position⟩, hm, he⟩
    obtain ⟨found, hf, hp⟩ := Option.map_eq_some_iff.mp he
    cases hp
    rw [← Slot.error?_eq_some.mp hf]
    exact List.mk_mem_zipIdx_iff_getElem?.mp hm
  · intro h
    exact ⟨(.failed error, i), List.mk_mem_zipIdx_iff_getElem?.mpr h, rfl⟩

theorem map_fst_failures (b : BatchResult α) : b.failures.map Prod.fst = b.failedPositions := by
  unfold failures failedPositions
  rw [List.map_filterMap]
  congr 1
  funext ⟨slot, position⟩
  cases slot <;> rfl

theorem mem_failedPositions {b : BatchResult α} {i : Nat} :
    i ∈ b.failedPositions ↔ ∃ error, b.slots[i]? = some (.failed error) := by
  rw [← map_fst_failures, List.mem_map]
  constructor
  · rintro ⟨⟨position, error⟩, hm, rfl⟩
    exact ⟨error, mem_failures.mp hm⟩
  · rintro ⟨error, h⟩
    exact ⟨(i, error), mem_failures.mpr h, rfl⟩

/-- Leaving out slots does not change the order of the others. -/
theorem pairwise_failedPositions (b : BatchResult α) : b.failedPositions.Pairwise (· < ·) := by
  have hall : (b.slots.zipIdx.map Prod.snd).Pairwise (· < ·) := by
    rw [List.zipIdx_map_snd]
    exact List.pairwise_lt_range' 1
  refine (List.pairwise_map.mp hall).filterMap _ ?_
  rintro ⟨slot, i⟩ ⟨slot', j⟩ hlt p hp q hq
  cases slot with
  | failed error =>
    cases slot' with
    | failed other =>
      cases hp
      cases hq
      exact hlt
    | ok value => cases hq
    | absent => cases hq
  | ok value => cases hp
  | absent => cases hp

theorem firstFailure?_eq_head? (b : BatchResult α) :
    b.firstFailure? = b.failures.head?.map Prod.snd :=
  calc
    b.firstFailure? = (b.slots.zipIdx.map Prod.fst).findSome? Slot.error? := by
      rw [List.zipIdx_map_fst, firstFailure?]
    _ = b.slots.zipIdx.findSome? (Slot.error? ∘ Prod.fst) := List.findSome?_map
    _ = b.failures.head?.map Prod.snd := by
      rw [failures, List.head?_filterMap, List.map_findSome?]
      congr 1
      funext ⟨slot, position⟩
      cases slot <;> rfl

theorem firstFailure?_eq_none_iff {b : BatchResult α} : b.firstFailure? = none ↔
    ∀ (i : Nat) (error : OperationError), b.slots[i]? ≠ some (.failed error) := by
  rw [firstFailure?_eq_head?, Option.map_eq_none_iff, List.head?_eq_none_iff,
    List.eq_nil_iff_forall_not_mem]
  constructor
  · intro h i error hi
    exact h (i, error) (mem_failures.mpr hi)
  · rintro h ⟨i, error⟩ hm
    exact h i error (mem_failures.mp hm)

theorem getElem?_values {b : BatchResult α} {i : Nat} {value : α} :
    b.values[i]? = some (some value) ↔ b.slots[i]? = some (.ok value) := by
  rw [values, List.getElem?_map, Option.map_eq_some_iff]
  simp only [Slot.value?_eq_some, exists_eq_right]

theorem none_mem_values {b : BatchResult α} : none ∈ b.values ↔ b.isAllOk = false := by
  rw [values, List.mem_map, isAllOk, List.all_eq_false]
  constructor
  · rintro ⟨slot, hm, hv⟩
    exact ⟨slot, hm, by cases slot <;> simp_all [Slot.isOk, Slot.value?]⟩
  · rintro ⟨slot, hm, hv⟩
    exact ⟨slot, hm, by cases slot <;> simp_all [Slot.isOk, Slot.value?]⟩

theorem collect_ok_cons (position : Nat) (value : α) (rest : List (Slot α)) :
    collect position (.ok value :: rest) = (collect (position + 1) rest).map (value :: ·) := by
  simp only [collect, Slot.toExcept, bind, Except.bind]
  cases collect (position + 1) rest <;> rfl

/-- All slots have values, which are those of the whole. -/
theorem collect_eq_ok {position : Nat} {slots : List (Slot α)} {values : List α} :
    collect position slots = .ok values ↔ slots.map Slot.value? = values.map some := by
  induction slots generalizing position values with
  | nil => cases values <;> simp [collect]
  | cons slot rest ih =>
    rw [List.map_cons]
    cases hv : slot.value? with
    | none =>
      obtain ⟨error, he⟩ := Slot.exists_error hv position
      rw [collect_cons_error he]
      cases values <;> simp
    | some value =>
      obtain rfl := Slot.value?_eq_some.mp hv
      rw [collect_ok_cons]
      cases values with
      | nil => cases collect (position + 1) rest <;> simp [Except.map]
      | cons first more =>
        have hrest : collect (position + 1) rest = .ok more ↔
            rest.map Slot.value? = more.map some := ih
        rw [List.map_cons, List.cons.injEq, ← hrest]
        cases collect (position + 1) rest <;> simp [Except.map]

theorem toExcept_eq_ok {b : BatchResult α} {values : List α} :
    b.toExcept = .ok values ↔ b.values = values.map some :=
  collect_eq_ok

theorem isAllOk_iff {b : BatchResult α} :
    b.isAllOk = true ↔ ∃ values, b.toExcept = .ok values := by
  constructor
  · intro h
    cases he : b.toExcept with
    | ok values => exact ⟨values, rfl⟩
    | error error =>
      obtain ⟨i, slot, hi, hs, -⟩ := toExcept_eq_error.mp he
      have hok : slot.isOk = true := List.all_eq_true.mp h slot (List.mem_of_getElem? hi)
      cases slot with
      | ok value => cases hs
      | failed error => cases hok
      | absent => cases hok
  · rintro ⟨values, h⟩
    cases ha : b.isAllOk with
    | true => rfl
    | false =>
      have hm := none_mem_values.mpr ha
      rw [toExcept_eq_ok.mp h, List.mem_map] at hm
      obtain ⟨value, -, he⟩ := hm
      cases he

theorem toExcept_eq_error_iff {b : BatchResult α} {error : OperationError} :
    b.toExcept = .error error ↔ ∃ position : Nat, b.FullBefore position ∧
      (b.slots[position]? = some (.failed error) ∨
        b.slots[position]? = some .absent ∧ error =
          .interrupted ("statement at position " ++ toString position ++
            " produced no result")) := by
  rw [toExcept_eq_error]
  constructor
  · rintro ⟨i, slot, hi, he, hb⟩
    refine ⟨i, hb, ?_⟩
    rcases Slot.toExcept_eq_error.mp he with rfl | ⟨rfl, rfl⟩
    · exact .inl hi
    · exact .inr ⟨hi, rfl⟩
  · rintro ⟨i, hb, hi | ⟨hi, rfl⟩⟩
    · exact ⟨i, _, hi, rfl, hb⟩
    · exact ⟨i, _, hi, rfl, hb⟩

/-- Neither failed nor absent, the slots before have values. -/
theorem fullBefore_of_failed {b : BatchResult α} {i : Nat} {error : OperationError}
    (hi : b.slots[i]? = some (.failed error))
    (hf : ∀ j < i, ∀ other, b.slots[j]? ≠ some (.failed other))
    (ha : ∀ j < i, b.slots[j]? ≠ some .absent) : b.FullBefore i := by
  intro j hj
  obtain ⟨hl, -⟩ := List.getElem?_eq_some_iff.mp hi
  have hslot := List.getElem?_eq_getElem (Nat.lt_trans hj hl)
  cases hs : b.slots[j] with
  | ok value => exact ⟨value, by rw [hslot, hs]⟩
  | failed other => exact absurd (by rw [hslot, hs]) (hf j hj other)
  | absent => exact absurd (by rw [hslot, hs]) (ha j hj)

/-- The views of any batch result agree, whatever slots it has. -/
theorem views_agree (b : BatchResult α) : b.ViewsAgree where
  increasing := b.pairwise_failedPositions
  failed _ := mem_failedPositions
  positions := b.map_fst_failures
  errors _ _ := mem_failures
  first := b.firstFailure?_eq_head?
  noFailure := firstFailure?_eq_none_iff
  aligned := List.length_map _
  values _ _ := getElem?_values
  allOk := isAllOk_iff
  complete := by rw [none_mem_values, Bool.not_eq_false]
  collected _ := toExcept_eq_ok
  refused _ := toExcept_eq_error_iff
  reported i error hi hf ha :=
    ⟨firstFailure?_eq_some.mpr ⟨i, hi, hf⟩,
      toExcept_eq_error_iff.mpr ⟨i, fullBefore_of_failed hi hf ha, .inl hi⟩⟩

/-- An absent slot before a failure: the whole has the error of the one, the other is reported. -/
example :
    let b : BatchResult Nat := ⟨[.ok 7, .absent, .failed .taskDropped]⟩
    b.toExcept = .error (.noResult 1) ∧ b.firstFailure? = some .taskDropped ∧
      b.failedPositions = [2] ∧ b.values = [some 7, none, none] :=
  ⟨rfl, rfl, rfl, rfl⟩

end BatchResult
end CqlOperations
