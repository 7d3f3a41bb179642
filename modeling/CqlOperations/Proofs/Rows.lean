import CqlOperations.Proofs.Translation
import CqlOperations.Session.Extraction

/-! The views of the rows of a response agree. Some count the rows, one reads the first of them and
some read all; what comes of each is said here by which rows can be read. -/
namespace CqlOperations

variable {σ α : Type}

namespace RowReader

/-- All of some rows can be read; they are `values`, in order. -/
def ReadsAll (reader : RowReader α) (rows : List (List (ColumnType × Cell))) (values : List α) :
    Prop :=
  rows.map reader.read = values.map .ok

/-- The first of some rows that cannot be read has this error. -/
def FirstFault (reader : RowReader α) (rows : List (List (ColumnType × Cell)))
    (fault : RowError) : Prop :=
  ∃ before row after values, rows = before ++ row :: after ∧ reader.ReadsAll before values ∧
    reader.read row = .error fault

variable {reader : RowReader α} {row : List (ColumnType × Cell)}
  {rows : List (List (ColumnType × Cell))}

theorem ReadsAll.length_eq {values : List α} (h : reader.ReadsAll rows values) :
    rows.length = values.length := by
  rw [← List.length_map (f := reader.read), h, List.length_map]

theorem mapM_read_cons_ok {value : α} (hr : reader.read row = .ok value) :
    (row :: rows).mapM reader.read = (rows.mapM reader.read).map (value :: ·) := by
  rw [List.mapM_cons, hr]
  cases rows.mapM reader.read <;> rfl

theorem mapM_read_cons_error {fault : RowError} (hr : reader.read row = .error fault) :
    (row :: rows).mapM reader.read = .error fault := by
  rw [List.mapM_cons, hr]
  rfl

theorem mapM_read_eq_ok {values : List α} :
    rows.mapM reader.read = .ok values ↔ reader.ReadsAll rows values := by
  unfold ReadsAll
  induction rows generalizing values with
  | nil => cases values <;> simp [pure, Except.pure]
  | cons row rest ih =>
    rw [List.map_cons]
    cases hr : reader.read row with
    | error fault =>
      rw [mapM_read_cons_error hr]
      cases values <;> simp
    | ok value =>
      rw [mapM_read_cons_ok hr]
      cases values with
      | nil => cases rest.mapM reader.read <;> simp [Except.map]
      | cons first more =>
        rw [List.map_cons, List.cons.injEq, ← ih]
        cases rest.mapM reader.read <;> simp [Except.map]

theorem firstFault_cons_error {fault other : RowError} (hr : reader.read row = .error other) :
    reader.FirstFault (row :: rows) fault ↔ other = fault := by
  constructor
  · rintro ⟨before, found, after, values, h, hb, hf⟩
    cases before with
    | nil =>
      cases h
      exact Except.error.inj (hr.symm.trans hf)
    | cons first more =>
      cases h
      cases values <;> simp [ReadsAll, hr] at hb
  · rintro rfl
    exact ⟨[], row, rows, [], rfl, rfl, hr⟩

/-- Behind a row that can be read the first fault is that of the others. -/
theorem firstFault_cons_ok {fault : RowError} {value : α} (hr : reader.read row = .ok value) :
    reader.FirstFault (row :: rows) fault ↔ reader.FirstFault rows fault := by
  constructor
  · rintro ⟨before, found, after, values, h, hb, hf⟩
    cases before with
    | nil =>
      cases h
      rw [hr] at hf
      cases hf
    | cons first more =>
      cases h
      cases values with
      | nil => cases hb
      | cons next others => exact ⟨more, found, after, others, rfl, (List.cons.inj hb).2, hf⟩
  · rintro ⟨before, found, after, values, rfl, hb, hf⟩
    refine ⟨row :: before, found, after, value :: values, rfl, ?_, hf⟩
    rw [ReadsAll, List.map_cons, List.map_cons, hr, hb]

/-- Reading stops at the first row that cannot be read. -/
theorem mapM_read_eq_error {fault : RowError} :
    rows.mapM reader.read = .error fault ↔ reader.FirstFault rows fault := by
  induction rows with
  | nil =>
    constructor
    · intro h
      cases h
    · rintro ⟨before, row, after, values, h, -⟩
      simp at h
  | cons row rest ih =>
    cases hr : reader.read row with
    | error other => rw [mapM_read_cons_error hr, firstFault_cons_error hr, Except.error.injEq]
    | ok value =>
      rw [mapM_read_cons_ok hr, firstFault_cons_ok hr, ← ih]
      cases rest.mapM reader.read <;> simp [Except.map]

end RowReader

namespace Response

/-- Nothing is read of the response. -/
structure Refuses (r : Response) (reader : RowReader α) (error first : ProcessingError) : Prop where
  mapRows : r.mapRows reader = .error error
  firstRow : r.firstRow reader = .error first
  singleRow : r.singleRow reader = .error error

/-- The views read `rows`, as far as each of them goes. -/
structure Reads (r : Response) (reader : RowReader α) (rows : List (List (ColumnType × Cell))) :
    Prop where
  all : ∀ values, r.mapRows reader = .ok values ↔ reader.ReadsAll rows values
  allFails : ∀ error, r.mapRows reader = .error error ↔
    ∃ fault, reader.FirstFault rows fault ∧ error = .deserializationFailed fault
  noFirst : r.firstRow reader = .ok none ↔ rows = []
  first : ∀ value, r.firstRow reader = .ok (some value) ↔
    ∃ row, rows.head? = some row ∧ reader.read row = .ok value
  firstFails : ∀ error, r.firstRow reader = .error error ↔
    ∃ row fault, rows.head? = some row ∧ reader.read row = .error fault ∧
      error = .firstRowDeserializationFailed fault
  only : ∀ value, r.singleRow reader = .ok value ↔
    ∃ row, rows = [row] ∧ reader.read row = .ok value
  /-- A row that cannot be read is found before the rows are counted. -/
  onlyFails : ∀ error, r.singleRow reader = .error error ↔
    (∃ fault, reader.FirstFault rows fault ∧ error = .deserializationFailed fault) ∨
      (∃ values, reader.ReadsAll rows values) ∧ rows.length ≠ 1 ∧
        error = .incorrectRowCount 1 rows.length

/-- What the views say of a response, and of each other. -/
structure ViewsAgree (r : Response) (reader : RowReader α) : Prop where
  without : r = .void → r.rowCount = 0 ∧ r.Refuses reader .resultNotRows .resultNotRows
  /-- Whatever is in the rows, and whether it can be read or not. -/
  counted : ∀ rs, r = .rows rs → r.rowCount = rs.cells.length
  present : r.hasRow = true ↔ 0 < r.rowCount
  mistyped : ∀ rs, r = .rows rs → reader.accepts rs.types = false →
    r.Refuses reader .typeCheckFailed .firstRowTypeCheckFailed
  read : ∀ rs, r = .rows rs → reader.accepts rs.types = true → r.Reads reader rs.typed
  agree : ∀ values, r.mapRows reader = .ok values →
    r.rowCount = values.length ∧ (r.hasRow = true ↔ values ≠ []) ∧
      r.firstRow reader = .ok values.head? ∧
        (∀ value, r.singleRow reader = .ok value ↔ values = [value]) ∧
          ∀ error, r.singleRow reader = .error error ↔
            values.length ≠ 1 ∧ error = .incorrectRowCount 1 values.length

variable {r : Response} {reader : RowReader α}

theorem mapRows_rows (reader : RowReader α) (rs : Rows) : (rows rs).mapRows reader =
    if reader.accepts rs.types then
      (rs.typed.mapM reader.read).mapError .deserializationFailed
    else .error .typeCheckFailed :=
  rfl

theorem firstRow_rows (reader : RowReader α) (rs : Rows) : (rows rs).firstRow reader =
    if reader.accepts rs.types then
      match rs.typed.head? with
      | none => .ok none
      | some row => ((reader.read row).map some).mapError .firstRowDeserializationFailed
    else .error .firstRowTypeCheckFailed := by
  simp only [firstRow, rows?, bind, Except.bind]
  cases rs.typed <;> rfl

/-- The only one of some values. -/
def only : List α → Except ProcessingError α
  | [value] => .ok value
  | values => .error (.incorrectRowCount 1 values.length)

theorem only_eq_ok {values : List α} {value : α} : only values = .ok value ↔ values = [value] := by
  match values with
  | [] => simp [only]
  | [_] => simp [only]
  | _ :: _ :: _ => simp [only]

theorem only_eq_error {values : List α} {error : ProcessingError} : only values = .error error ↔
    values.length ≠ 1 ∧ error = .incorrectRowCount 1 values.length := by
  match values with
  | [] => simp [only, eq_comm]
  | [_] => simp [only]
  | _ :: _ :: _ => simp [only, eq_comm]

/-- All rows are read first; then their number is looked at. -/
theorem singleRow_eq_bind (r : Response) (reader : RowReader α) :
    r.singleRow reader = (r.mapRows reader).bind only := by
  unfold singleRow
  cases r.mapRows reader with
  | error error => rfl
  | ok values =>
    match values with
    | [] => rfl
    | [_] => rfl
    | _ :: _ :: _ => rfl

theorem singleRow_eq_ok {value : α} :
    r.singleRow reader = .ok value ↔ r.mapRows reader = .ok [value] := by
  rw [singleRow_eq_bind]
  cases r.mapRows reader with
  | error error => simp [Except.bind]
  | ok values => simp [Except.bind, only_eq_ok]

theorem singleRow_eq_error {error : ProcessingError} :
    r.singleRow reader = .error error ↔ r.mapRows reader = .error error ∨
      ∃ values, r.mapRows reader = .ok values ∧ values.length ≠ 1 ∧
        error = .incorrectRowCount 1 values.length := by
  rw [singleRow_eq_bind]
  cases r.mapRows reader with
  | error other => simp [Except.bind]
  | ok values => simp [Except.bind, only_eq_error]

theorem Refuses.of_mapRows {error first : ProcessingError} (h : r.mapRows reader = .error error)
    (hf : r.firstRow reader = .error first) : r.Refuses reader error first :=
  ⟨h, hf, singleRow_eq_error.mpr (.inl h)⟩

section

/-! The views of rows of the right types. -/

variable {rs : Rows} (h : reader.accepts rs.types = true)
include h

theorem mapRows_eq_ok {values : List α} :
    (rows rs).mapRows reader = .ok values ↔ reader.ReadsAll rs.typed values := by
  rw [mapRows_rows, if_pos h, ← RowReader.mapM_read_eq_ok]
  cases rs.typed.mapM reader.read <;> simp [Except.mapError]

theorem mapRows_eq_error {error : ProcessingError} : (rows rs).mapRows reader = .error error ↔
    ∃ fault, reader.FirstFault rs.typed fault ∧ error = .deserializationFailed fault := by
  simp only [mapRows_rows, if_pos h, ← RowReader.mapM_read_eq_error]
  cases rs.typed.mapM reader.read <;> simp [Except.mapError, eq_comm]

theorem firstRow_eq_none : (rows rs).firstRow reader = .ok none ↔ rs.typed = [] := by
  rw [firstRow_rows, if_pos h]
  cases rs.typed with
  | nil => simp
  | cons row rest => cases hr : reader.read row <;> simp [hr, Except.map, Except.mapError]

theorem firstRow_eq_some {value : α} : (rows rs).firstRow reader = .ok (some value) ↔
    ∃ row, rs.typed.head? = some row ∧ reader.read row = .ok value := by
  rw [firstRow_rows, if_pos h]
  cases rs.typed with
  | nil => simp
  | cons row rest => cases hr : reader.read row <;> simp [hr, Except.map, Except.mapError]

theorem firstRow_eq_error {error : ProcessingError} : (rows rs).firstRow reader = .error error ↔
    ∃ row fault, rs.typed.head? = some row ∧ reader.read row = .error fault ∧
      error = .firstRowDeserializationFailed fault := by
  rw [firstRow_rows, if_pos h]
  cases rs.typed with
  | nil => simp
  | cons row rest =>
    cases hr : reader.read row <;> simp [hr, Except.map, Except.mapError, eq_comm]

theorem reads_rows : (rows rs).Reads reader rs.typed where
  all _ := mapRows_eq_ok h
  allFails _ := mapRows_eq_error h
  noFirst := firstRow_eq_none h
  first _ := firstRow_eq_some h
  firstFails _ := firstRow_eq_error h
  only value := by
    rw [singleRow_eq_ok, mapRows_eq_ok h]
    exact List.map_eq_singleton_iff
  onlyFails error := by
    rw [singleRow_eq_error, mapRows_eq_error h]
    constructor
    · rintro (hf | ⟨values, hv, hl, rfl⟩)
      · exact .inl hf
      · have hv := (mapRows_eq_ok h).mp hv
        rw [← hv.length_eq] at hl ⊢
        exact .inr ⟨⟨values, hv⟩, hl, rfl⟩
    · rintro (hf | ⟨⟨values, hv⟩, hl, rfl⟩)
      · exact .inl hf
      · refine .inr ⟨values, (mapRows_eq_ok h).mpr hv, ?_⟩
        rw [← hv.length_eq]
        exact ⟨hl, rfl⟩

end

/-- Only rows of the right types are read. -/
theorem exists_of_mapRows {values : List α} (h : r.mapRows reader = .ok values) :
    ∃ rs, r = .rows rs ∧ reader.accepts rs.types = true := by
  cases r with
  | void => cases h
  | rows rs =>
    refine ⟨rs, rfl, ?_⟩
    cases ha : reader.accepts rs.types with
    | true => rfl
    | false => simp [mapRows_rows, ha] at h

theorem viewsAgree (r : Response) (reader : RowReader α) : r.ViewsAgree reader where
  without h := by
    subst h
    exact ⟨rfl, .of_mapRows rfl rfl⟩
  counted rs h := by
    subst h
    rfl
  present := decide_eq_true_iff
  mistyped rs h ha := by
    subst h
    refine .of_mapRows ?_ ?_
    · simp [mapRows_rows, ha]
    · simp [firstRow_rows, ha]
  read rs h ha := by
    subst h
    exact reads_rows ha
  agree values h := by
    obtain ⟨rs, rfl, ha⟩ := exists_of_mapRows h
    have hreads := reads_rows ha
    have hv := (hreads.all values).mp h
    have hl : rs.cells.length = values.length := by
      rw [← hv.length_eq, Rows.typed, List.length_map]
    refine ⟨hl, ?_, ?_, fun value => ?_, fun error => ?_⟩
    · rw [hasRow, decide_eq_true_iff, rowCount, hl, List.length_pos_iff]
    · cases values with
      | nil => exact hreads.noFirst.mpr (List.map_eq_nil_iff.mp hv)
      | cons first rest =>
        obtain ⟨row, more, hrows, hr, -⟩ := List.map_eq_cons_iff.mp hv
        exact (hreads.first first).mpr ⟨row, by rw [hrows]; rfl, hr⟩
    · rw [singleRow_eq_ok, h, Except.ok.injEq]
    · rw [singleRow_eq_error, h]
      simp

/-- What the caller of a view gets. -/
def result (toDatum : α → Datum) : Except ProcessingError α → Result Response
  | .ok value => .ok (.made (toDatum value))
  | .error error => .error (.processing error)

end Response

theorem Processor.run_ofView (label : String) (view : Response → Except ProcessingError α)
    (toDatum : α → Datum) (r : Response) :
    (ofView label view toDatum).run (.reply r) = .returned (Response.result toDatum (view r)) := by
  cases hv : view r with
  | error error => simp [ofView, hv, Response.result]
  | ok value => simp [ofView, hv, Response.result]

namespace Operation

variable {ρ : Type}

/-- The processors of `o` make `output` of what its requests come to, as many as there are. -/
def Makes (o : Operation σ ρ) (env : Environment ρ) (requests : Nat) (output : Output ρ) : Prop :=
  ∃ first, o.base.gathered? o.translator env.outcome requests = some (.returned (.ok first)) ∧
    Processor.through o.processors first = .returned (.ok output)

/-- An execution of `o` sends `statements`, and its caller gets `result`. -/
def Comes (o : Operation σ ρ) (path : Path) (state : σ) (env : Environment ρ)
    (statements : List Statement) (result : Result ρ) : Prop :=
  ∃ s, (o.submit path state).1 = .ok s ∧ s.statements = statements ∧ s.Gives env result

theorem processors_transform (o : Operation σ ρ) (p : Processor ρ) :
    (o.transform p).processors = o.processors ++ [p] := by
  simp [processors, transform, wrap, List.filterMap_append]

/-- A view works on the response that the operation under it comes to. -/
theorem IsStack.view_comes {o : Operation σ Response} (h : o.IsStack) {path : Path} {state : σ}
    {s : Submission Response} (hs : (o.submit path state).1 = .ok s) {env : Environment Response}
    (hr : env.RunsAll) {r : Response} (hm : o.Makes env s.statements.length (.reply r))
    (f : Response → Except ProcessingError α) (toDatum : α → Datum) :
    (o.view f toDatum).Comes path state env s.statements (Response.result toDatum (f r)) := by
  obtain ⟨statements, hc, rfl⟩ := h.submit_ok hs
  obtain ⟨first, hg, ht⟩ := hm
  have hv : (o.view f toDatum).IsStack := h.transform _
  -- a view creates the statements of the operation under it
  have hc' : (o.view f toDatum).createStatements state =
      (.ok statements, (o.createStatements state).2) := Prod.ext hc rfl
  have hs' : ((o.view f toDatum).submit path state).1 =
      .ok ((o.view f toDatum).submission path statements) := by
    rw [hv.submit_eq, hc']
  have ht' : Processor.through (o.view f toDatum).processors first =
      .returned (Response.result toDatum (f r)) := by
    rw [view, processors_transform, Processor.through_append ht, Processor.through,
      Processor.run_ofView]
    cases Response.result toDatum (f r) <;> rfl
  exact ⟨_, hs', rfl, hv.gives hs' hg (Account.ending_processing_returned hr 0 ht')⟩

/-- What comes of the operations that view the rows which `o` comes to. -/
structure ShowsRows (o : Operation σ Response) (path : Path) (state : σ)
    (env : Environment Response) (statements : List Statement) (r : Response)
    (reader : RowReader α) (toDatum : α → Datum) : Prop where
  mapRows : (o.mapRows reader toDatum).Comes path state env statements
    (Response.result (fun rows => .list (rows.map toDatum)) (r.mapRows reader))
  firstRow : (o.firstRow reader toDatum).Comes path state env statements
    (Response.result (fun row => (row.map toDatum).getD .null) (r.firstRow reader))
  singleRow : (o.singleRow reader toDatum).Comes path state env statements
    (Response.result toDatum (r.singleRow reader))
  hasRow : o.hasRow.Comes path state env statements (.ok (.made (.flag r.hasRow)))
  rowCount : o.rowCount.Comes path state env statements (.ok (.made (.number r.rowCount)))

end Operation

/-- Of any response and any way to read rows, the views agree. Where an operation comes to a
response the operations that view its rows come to what the views make of it: an error of a view is
a failure to process the response. -/
theorem Response.rows_agree (r : Response) (reader : RowReader α) (toDatum : α → Datum) :
    r.ViewsAgree reader ∧
      ∀ (o : Operation σ Response) (path : Path) (state : σ) (s : Submission Response)
        (env : Environment Response), o.IsStack → (o.submit path state).1 = .ok s → env.RunsAll →
          o.Makes env s.statements.length (.reply r) →
            o.ShowsRows path state env s.statements r reader toDatum :=
  ⟨r.viewsAgree reader, fun _ _ _ _ _ h hs hr hm =>
    { mapRows := h.view_comes hs hr hm _ _
      firstRow := h.view_comes hs hr hm _ _
      singleRow := h.view_comes hs hr hm _ _
      hasRow := h.view_comes hs hr hm _ _
      rowCount := h.view_comes hs hr hm _ _ }⟩

/-! Two rows, the second of which cannot be read. -/

def Response.halfReadable : Response :=
  .rows ⟨[⟨"count", .bigint⟩], [[some [0, 0, 0, 0, 0, 0, 0, 7]], [none]]⟩

def Operation.query : Operation Unit Response where
  translator := .standard
  runtime := .currentThread
  base := .single (.constant (.ofText "SELECT count FROM t"))

def Environment.halfReadable : Environment Response where
  outcome _ := .answered .halfReadable
  discipline _ := .runs

theorem Operation.isStack_query : query.IsStack where
  sends _ _ h := by simp [query] at h
  transforms _ hl := absurd hl List.not_mem_nil

/-- The fault comes before the wrong number of rows, and the first row does not suffer from it. -/
theorem rows_agree_halfReadable :
    (Operation.query.singleRow (.one .bigint) .number).Comes .caller () .halfReadable
        [.ofText "SELECT count FROM t"]
        (.error (.processing (.deserializationFailed ⟨0, .missing⟩))) ∧
      (Operation.query.firstRow (.one .bigint) .number).Comes .caller () .halfReadable
        [.ofText "SELECT count FROM t"] (.ok (.made (.number 7))) ∧
      Operation.query.rowCount.Comes .caller () .halfReadable [.ofText "SELECT count FROM t"]
        (.ok (.made (.number 2))) := by
  obtain ⟨-, hall⟩ := Response.halfReadable.rows_agree (σ := Unit) (.one .bigint) .number
  have hshows := hall Operation.query .caller () _ .halfReadable Operation.isStack_query rfl
    (fun _ => nofun) ⟨_, rfl, rfl⟩
  exact ⟨hshows.singleRow, hshows.firstRow, hshows.rowCount⟩

end CqlOperations
