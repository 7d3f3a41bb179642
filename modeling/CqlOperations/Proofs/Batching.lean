import CqlOperations.Statement.Fold

/-! Which statements fold into one batch, and what the batch says of them. -/
namespace CqlOperations.Statement

/-- The batch that stands for these statements: the text, settings and values of each of them, in
order, and no settings of its own. -/
structure Batches (type : BatchType) (statements : List Statement) (parts : List Query)
    (values : List (List Value)) (folded : Statement) : Prop where
  eq : folded = batch type parts {} values
  sizes : parts.length = statements.length ∧ values.length = statements.length
  each : ∀ (i : Nat) (s : Statement), statements[i]? = some s →
    ∃ query bound, parts[i]? = some query ∧ values[i]? = some bound ∧ s = unprepared query bound

/-- The first statement that cannot be part of a batch. -/
structure FirstIrregular (statements : List Statement) (position : Nat) (kind : Kind) : Prop where
  found : statements[position]?.map Statement.kind = some kind
  irregular : kind ≠ .unprepared
  before : ∀ i < position, ∀ s, statements[i]? = some s → s.kind = .unprepared

/-- The statements that a batch is made of. -/
def members : Statement → List Statement
  | batch _ parts _ values => List.zipWith .unprepared parts values
  | _ => []

variable {type : BatchType} {statements : List Statement} {folded s : Statement}

theorem isRegular_iff : s.isRegular ↔ s.kind = .unprepared :=
  decide_eq_true_iff

theorem regularParts_unprepared (position : Nat) (parts : List (Query × List Value)) :
    regularParts position (parts.map fun part => .unprepared part.1 part.2) = .ok parts := by
  induction parts generalizing position with
  | nil => rfl
  | cons part rest ih => simp only [List.map_cons, regularParts, ih, Except.map]

theorem eq_of_regularParts {position : Nat} {parts : List (Query × List Value)}
    (h : regularParts position statements = .ok parts) :
    statements = parts.map fun part => .unprepared part.1 part.2 := by
  induction statements generalizing position parts with
  | nil => cases h; rfl
  | cons statement rest ih =>
    cases statement with
    | prepared query values => cases h
    | batch type queries settings values => cases h
    | unprepared query values =>
      simp only [regularParts] at h
      cases hr : regularParts (position + 1) rest with
      | error error => rw [hr] at h; cases h
      | ok more =>
        rw [hr] at h
        cases h
        rw [ih hr, List.map_cons]

/-- Unprepared statements make a batch, as long as there are any. -/
theorem fold_unprepared (type : BatchType) {parts : List (Query × List Value)} (h : parts ≠ []) :
    fold type (parts.map fun part => .unprepared part.1 part.2) =
      .ok (.batch type (parts.map Prod.fst) {} (parts.map Prod.snd)) := by
  have hempty : parts.isEmpty = false := by
    cases parts with
    | nil => exact absurd rfl h
    | cons part rest => rfl
  simp only [fold, regularParts_unprepared, bind, Except.bind, hempty, pure, Except.pure,
    Bool.false_eq_true, if_false]

theorem fold_of_regularParts_error {error : UsageError}
    (h : regularParts 0 statements = .error error) : fold type statements = .error error := by
  rw [fold, h]
  rfl

theorem exists_parts_of_fold (h : fold type statements = .ok folded) :
    ∃ parts : List (Query × List Value), parts ≠ [] ∧
      statements = (parts.map fun part => .unprepared part.1 part.2) ∧
      folded = .batch type (parts.map Prod.fst) {} (parts.map Prod.snd) := by
  cases hp : regularParts 0 statements with
  | error error =>
    rw [fold_of_regularParts_error hp] at h
    cases h
  | ok parts =>
    have hs := eq_of_regularParts hp
    have hne : parts ≠ [] := by
      rintro rfl
      rw [hs] at h
      cases h
    rw [hs, fold_unprepared type hne] at h
    cases h
    exact ⟨parts, hne, hs, rfl⟩

/-- What is folded is read off the batch again: its parts with their values, in order. -/
theorem eq_of_fold (h : fold type statements = .ok folded) :
    ∃ parts values, folded = .batch type parts {} values ∧ parts.length = statements.length ∧
      values.length = statements.length ∧ statements = List.zipWith .unprepared parts values := by
  obtain ⟨parts, -, hs, rfl⟩ := exists_parts_of_fold h
  refine ⟨parts.map Prod.fst, parts.map Prod.snd, rfl, by simp [hs], by simp [hs], ?_⟩
  rw [hs, List.zipWith_map, List.zipWith_self]

/-- Nothing but regular statements is folded, and not without any. -/
theorem regular_of_fold (h : fold type statements = .ok folded) :
    statements ≠ [] ∧ ∀ s ∈ statements, s.isRegular := by
  obtain ⟨parts, hne, rfl, -⟩ := exists_parts_of_fold h
  refine ⟨fun hnil => hne (List.map_eq_nil_iff.mp hnil), fun s hs => ?_⟩
  obtain ⟨part, -, rfl⟩ := List.mem_map.mp hs
  rfl

theorem members_of_fold (h : fold type statements = .ok folded) : folded.members = statements := by
  obtain ⟨parts, values, rfl, -, -, hs⟩ := eq_of_fold h
  exact hs.symm

theorem batches_of_fold (h : fold type statements = .ok folded) :
    ∃ parts values, Batches type statements parts values folded := by
  obtain ⟨parts, values, heq, hparts, hvalues, rfl⟩ := eq_of_fold h
  refine ⟨parts, values, heq, ⟨hparts, hvalues⟩, fun i s hi => ?_⟩
  obtain ⟨query, bound, hq, hb, rfl⟩ := List.getElem?_zipWith_eq_some.mp hi
  exact ⟨query, bound, hq, hb, rfl⟩

/-- There is only one list of unprepared statements that a batch stands for. -/
theorem Batches.eq_zipWith {parts : List Query} {values : List (List Value)}
    (h : Batches type statements parts values folded) :
    statements = List.zipWith .unprepared parts values := by
  apply List.ext_getElem?
  intro i
  rw [List.getElem?_zipWith]
  cases hs : statements[i]? with
  | some s =>
    obtain ⟨query, bound, hq, hb, rfl⟩ := h.each i s hs
    rw [hq, hb]
  | none =>
    rw [List.getElem?_eq_none_iff, ← h.sizes.1, ← List.getElem?_eq_none_iff] at hs
    rw [hs]

theorem fold_of_batches {parts : List Query} {values : List (List Value)}
    (h : Batches type statements parts values folded) (hne : statements ≠ []) :
    fold type statements = .ok folded := by
  have hlength : parts.length = values.length := h.sizes.1.trans h.sizes.2.symm
  have hs : statements = (parts.zip values).map fun part => .unprepared part.1 part.2 := by
    rw [h.eq_zipWith, ← List.map_uncurry_zip_eq_zipWith]
    rfl
  have hpairs : parts.zip values ≠ [] := by
    intro hnil
    rw [hs, hnil] at hne
    exact hne rfl
  rw [h.eq, hs, fold_unprepared type hpairs, List.map_fst_zip (Nat.le_of_eq hlength),
    List.map_snd_zip (Nat.le_of_eq hlength.symm)]

namespace FirstIrregular

variable {rest : List Statement} {position : Nat} {kind : Kind}

theorem head (h : s.kind ≠ .unprepared) : FirstIrregular (s :: rest) 0 s.kind :=
  ⟨rfl, h, fun _ hi => absurd hi (Nat.not_lt_zero _)⟩

theorem tail (hs : s.kind = .unprepared) (h : FirstIrregular rest position kind) :
    FirstIrregular (s :: rest) (position + 1) kind where
  found := h.found
  irregular := h.irregular
  before i hi t ht := by
    cases i with
    | zero =>
      cases ht
      exact hs
    | succ i => exact h.before i (by omega) t ht

theorem exists_irregular (h : FirstIrregular statements position kind) :
    ∃ s ∈ statements, ¬ s.isRegular := by
  obtain ⟨s, hs, rfl⟩ := Option.map_eq_some_iff.mp h.found
  exact ⟨s, List.mem_of_getElem? hs, fun hr => h.irregular (isRegular_iff.mp hr)⟩

/-- There is at most one first. -/
theorem unique {other : Nat} {otherKind : Kind} (h : FirstIrregular statements position kind)
    (h' : FirstIrregular statements other otherKind) : position = other ∧ kind = otherKind := by
  have hle : ∀ {m n : Nat} {k l : Kind}, FirstIrregular statements m k →
      FirstIrregular statements n l → ¬ m < n := by
    intro m n k l hm hn hlt
    obtain ⟨s, hs, hk⟩ := Option.map_eq_some_iff.mp hm.found
    exact hm.irregular (hk.symm.trans (hn.before m hlt s hs))
  have heq : position = other := by
    have := hle h h'
    have := hle h' h
    omega
  subst heq
  exact ⟨rfl, Option.some.inj (h.found.symm.trans h'.found)⟩

end FirstIrregular

/-- The parts of unprepared statements are there, or else the first statement of another kind is
found; its position counts from where the list begins. -/
theorem regularParts_cases (start : Nat) (statements : List Statement) :
    (∃ parts, regularParts start statements = .ok parts) ∨
      ∃ position kind, FirstIrregular statements position kind ∧
        regularParts start statements = .error (.notFoldable (start + position) kind) := by
  induction statements generalizing start with
  | nil => exact .inl ⟨[], rfl⟩
  | cons s rest ih =>
    cases s with
    | prepared query values =>
      right
      refine ⟨0, .prepared, .head ?_, rfl⟩
      nofun
    | batch type parts settings values =>
      right
      refine ⟨0, .batch, .head ?_, rfl⟩
      nofun
    | unprepared query values =>
      rcases ih (start + 1) with ⟨parts, hp⟩ | ⟨position, kind, hfirst, herror⟩
      · left
        refine ⟨(query, values) :: parts, ?_⟩
        rw [regularParts, hp]
        rfl
      · right
        refine ⟨position + 1, kind, hfirst.tail rfl, ?_⟩
        rw [regularParts, herror, Nat.add_right_comm start 1 position]
        rfl

/-- Folding makes a batch, refuses the first statement of another kind, or has nothing to fold. -/
theorem fold_cases (type : BatchType) (statements : List Statement) :
    (∃ folded, fold type statements = .ok folded) ∨
      (∃ position kind, FirstIrregular statements position kind ∧
        fold type statements = .error (.notFoldable position kind)) ∨
      (statements = [] ∧ fold type statements = .error .emptyBatch) := by
  rcases regularParts_cases 0 statements with ⟨parts, hp⟩ | ⟨position, kind, hfirst, herror⟩
  · have hs := eq_of_regularParts hp
    cases parts with
    | nil =>
      subst hs
      exact .inr (.inr ⟨rfl, rfl⟩)
    | cons part rest =>
      rw [hs]
      exact .inl ⟨_, fold_unprepared type (List.cons_ne_nil part rest)⟩
  · rw [Nat.zero_add] at herror
    exact .inr (.inl ⟨position, kind, hfirst, fold_of_regularParts_error herror⟩)

theorem exists_notFoldable (type : BatchType) (h : ∃ s ∈ statements, ¬ s.isRegular) :
    ∃ position kind, FirstIrregular statements position kind ∧
      fold type statements = .error (.notFoldable position kind) := by
  obtain ⟨s, hs, hirregular⟩ := h
  rcases fold_cases type statements with ⟨folded, hok⟩ | hrefused | ⟨rfl, -⟩
  · exact absurd ((regular_of_fold hok).2 s hs) hirregular
  · exact hrefused
  · cases hs

theorem exists_fold_iff : (∃ folded, fold type statements = .ok folded) ↔
    statements ≠ [] ∧ ∀ s ∈ statements, s.isRegular := by
  constructor
  · rintro ⟨folded, hok⟩
    exact regular_of_fold hok
  · rintro ⟨hne, hall⟩
    rcases fold_cases type statements with hfolds | ⟨position, kind, hfirst, -⟩ | ⟨hnil, -⟩
    · exact hfolds
    · obtain ⟨s, hs, hirregular⟩ := hfirst.exists_irregular
      exact absurd (hall s hs) hirregular
    · exact absurd hnil hne

theorem fold_eq_ok_iff : fold type statements = .ok folded ↔
    statements ≠ [] ∧ ∃ parts values, Batches type statements parts values folded := by
  constructor
  · intro hok
    exact ⟨(regular_of_fold hok).1, batches_of_fold hok⟩
  · rintro ⟨hne, parts, values, hbatches⟩
    exact fold_of_batches hbatches hne

theorem fold_eq_notFoldable_iff {position : Nat} {kind : Kind} :
    fold type statements = .error (.notFoldable position kind) ↔
      FirstIrregular statements position kind := by
  constructor
  · intro h
    rcases fold_cases type statements with ⟨folded, hok⟩ | ⟨_, _, hfirst, herror⟩ | ⟨-, herror⟩
    · rw [h] at hok
      cases hok
    · rw [h] at herror
      cases herror
      exact hfirst
    · rw [h] at herror
      cases herror
  · intro hfirst
    obtain ⟨_, _, hother, herror⟩ := exists_notFoldable type hfirst.exists_irregular
    obtain ⟨rfl, rfl⟩ := hfirst.unique hother
    exact herror

theorem fold_eq_emptyBatch_iff : fold type statements = .error .emptyBatch ↔ statements = [] := by
  constructor
  · intro h
    rcases fold_cases type statements with ⟨folded, hok⟩ | ⟨_, _, -, herror⟩ | ⟨hnil, -⟩
    · rw [h] at hok
      cases hok
    · rw [h] at herror
      cases herror
    · exact hnil
  · rintro rfl
    rfl

/-- What folding a list of statements into a batch of a type comes to. -/
structure FoldLaw (type : BatchType) (statements : List Statement) : Prop where
  accepts : (∃ folded, fold type statements = .ok folded) ↔
    statements ≠ [] ∧ ∀ s ∈ statements, s.isRegular
  makes : ∀ folded, fold type statements = .ok folded ↔
    statements ≠ [] ∧ ∃ parts values, Batches type statements parts values folded
  irregular : (∃ s ∈ statements, ¬ s.isRegular) → ∃ position kind,
    FirstIrregular statements position kind ∧
      fold type statements = .error (.notFoldable position kind)
  refuses : ∀ position kind, fold type statements = .error (.notFoldable position kind) ↔
    FirstIrregular statements position kind
  empty : fold type statements = .error .emptyBatch ↔ statements = []
  /-- A batch is no part of another one, of whatever type. -/
  final : ∀ folded, fold type statements = .ok folded → ∀ other others, folded ∈ others →
    ∃ position kind, fold other others = .error (.notFoldable position kind)
  readBack : ∀ folded, fold type statements = .ok folded → folded.members = statements
  injective : ∀ others folded, fold type statements = .ok folded →
    fold type others = .ok folded → statements = others

/-- Lists of regular statements are folded if there is anything to fold, and no others. The batch
says of each of its statements all that there is to say. -/
theorem fold_law (type : BatchType) (statements : List Statement) : FoldLaw type statements where
  accepts := exists_fold_iff
  makes _ := fold_eq_ok_iff
  irregular := exists_notFoldable type
  refuses _ _ := fold_eq_notFoldable_iff
  empty := fold_eq_emptyBatch_iff
  final folded hok other others hmem := by
    obtain ⟨parts, values, rfl, -⟩ := eq_of_fold hok
    obtain ⟨position, kind, -, herror⟩ := exists_notFoldable other ⟨_, hmem, nofun⟩
    exact ⟨position, kind, herror⟩
  readBack _ := members_of_fold
  injective others folded hok hother := by
    rw [← members_of_fold hok, ← members_of_fold hother]

end CqlOperations.Statement
