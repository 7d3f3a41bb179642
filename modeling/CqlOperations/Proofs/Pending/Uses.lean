import CqlOperations.Proofs.Pending

/-! Whatever is done with a handle, in whatever order: waits with or without a limit, which may end
before the result is there, and looks at whether it is. The result is handed out once, to the first
wait that finds it. -/
namespace CqlOperations.Pending

variable {ρ : Type}

/-- What joining a task gives at each moment. A result that is there stays. -/
structure History (ρ : Type) where
  found : Nat → Option (Result ρ)
  stays : ∀ {m n : Nat} {r : Result ρ}, m ≤ n → found m = some r → found n = some r

/-- Where the result of a handle comes from. -/
inductive Source (ρ : Type) where
  | known (result : Result ρ)
  | task (history : History ρ)

/-- A use of a handle. A wait without a limit may still be given up. -/
inductive Use where
  | wait (limit : Option Duration)
  | look

/-- A use that comes some time after the one before. A wait lasts until it is answered or over. -/
structure Spell where
  use : Use
  pause : Nat
  lasts : Nat

inductive Reply (ρ : Type) where
  | result (result : Result ρ)
  | unanswered
  | finished (finished : Bool)

/-- A use as it went, with the handle after it. -/
structure Record (ρ : Type) where
  use : Use
  begins : Nat
  ends : Nat
  after : Pending Unit ρ
  reply : Reply ρ

namespace Source

/-- The handle to begin with. -/
def handle : Source ρ → Pending Unit ρ
  | known result => .ready result
  | task _ => .inFlight ()

/-- The result, once it is there. -/
def found : Source ρ → Nat → Option (Result ρ)
  | known result => fun _ => some result
  | task history => history.found

theorem found_stays (s : Source ρ) {m n : Nat} {r : Result ρ} (hmn : m ≤ n)
    (h : s.found m = some r) : s.found n = some r := by
  cases s with
  | known result => exact h
  | task history => exact history.stays hmn h

end Source

/-- What a handle makes of a use, given what is there when it begins and when it ends. -/
def answer (p : Pending Unit ρ) (begins ends : Option (Result ρ)) :
    Use → Pending Unit ρ × Reply ρ
  | .wait (some limit) =>
    let (p, result) := p.waitWithin limit (fun _ => begins) (fun _ => ends)
    (p, .result result)
  | .wait none =>
    match p.wait (fun _ => begins) (fun _ => ends) with
    | (p, some result) => (p, .result result)
    | (p, none) => (p, .unanswered)
  | .look => (p, .finished (p.isFinished fun _ => ends))

def serve (found : Nat → Option (Result ρ)) (now : Nat) (p : Pending Unit ρ) (s : Spell) :
    Record ρ where
  use := s.use
  begins := now + s.pause
  ends := now + s.pause + s.lasts
  after := (p.answer (found (now + s.pause)) (found (now + s.pause + s.lasts)) s.use).1
  reply := (p.answer (found (now + s.pause)) (found (now + s.pause + s.lasts)) s.use).2

/-- Serves uses one after the other. -/
def serveAll (found : Nat → Option (Result ρ)) (now : Nat) (p : Pending Unit ρ) :
    List Spell → List (Record ρ)
  | [] => []
  | s :: rest => serve found now p s ::
      serveAll found (serve found now p s).ends (serve found now p s).after rest

namespace Record

/-- The wait is over before the result is there, or the use is a look. The handle is as it was. -/
inductive Misses (src : Source ρ) (r : Record ρ) : Prop where
  | expired {limit : Duration} (hu : r.use = .wait (some limit)) (hf : src.found r.ends = none)
      (hr : r.reply = .result (.error (.waitTimeout limit))) (ha : r.after = .inFlight ())
  | unanswered (hu : r.use = .wait none) (hf : src.found r.ends = none)
      (hr : r.reply = .unanswered) (ha : r.after = .inFlight ())
  | looked (hu : r.use = .look) (hr : r.reply = .finished (src.found r.ends).isSome)
      (ha : r.after = src.handle)

/-- The wait is answered with the result. -/
structure Takes (src : Source ρ) (result : Result ρ) (r : Record ρ) : Prop where
  waits : ∃ limit, r.use = .wait limit
  found : src.found r.ends = some result
  reply : r.reply = .result result
  after : r.after = .consumed

/-- The result is there, but an earlier wait got it. -/
inductive Late (src : Source ρ) (result : Result ρ) (r : Record ρ) : Prop where
  | refused {limit : Option Duration} (hu : r.use = .wait limit)
      (hf : src.found r.begins = some result)
      (hr : r.reply = .result (.error (.usage .resultAlreadyTaken))) (ha : r.after = .consumed)
  | looked (hu : r.use = .look) (hf : src.found r.begins = some result)
      (hr : r.reply = .finished true) (ha : r.after = .consumed)

end Record

/-- Without a result only a task can be behind a handle. -/
theorem Source.handle_of_none {src : Source ρ} {n : Nat} (h : src.found n = none) :
    src.handle = .inFlight () := by
  cases src with
  | known result => cases h
  | task history => rfl

/-- A handle that is not taken yet gives its result away once it is there. -/
theorem poll_handle (src : Source ρ) (n : Nat) :
    (src.handle.poll fun _ => src.found n) =
      match src.found n with
      | some result => (.consumed, some result)
      | none => (src.handle, none) := by
  cases src with
  | known result => rfl
  | task history =>
    cases (Source.task history).found n <;> rfl

/-- A wait on it finds what is there at its end. -/
theorem wait_handle (src : Source ρ) {m n : Nat} (hmn : m ≤ n) :
    src.handle.wait (fun _ => src.found m) (fun _ => src.found n) =
      match src.found n with
      | some result => (.consumed, some result)
      | none => (src.handle, none) := by
  rw [wait, poll_handle]
  cases hm : src.found m with
  | some result =>
    rw [src.found_stays hmn hm]
  | none =>
    dsimp only
    rw [poll_handle]

theorem isFinished_handle (src : Source ρ) (n : Nat) :
    src.handle.isFinished (fun _ => src.found n) = (src.found n).isSome := by
  cases src with
  | known result => rfl
  | task history => rfl

/-- A handle that is not taken yet serves a use by what is there at its end. -/
theorem serve_handle (src : Source ρ) (now : Nat) (s : Spell) :
    (serve src.found now src.handle s).Misses src ∨
      ∃ result, (serve src.found now src.handle s).Takes src result := by
  have hwait := wait_handle src (Nat.le_add_right (now + s.pause) s.lasts)
  cases hu : s.use with
  | look =>
    left
    apply Record.Misses.looked
    · exact hu
    · simp [serve, hu, answer, isFinished_handle]
    · simp [serve, hu, answer]
  | wait limit =>
    cases hf : src.found (now + s.pause + s.lasts) with
    | some result =>
      right
      rw [hf] at hwait
      refine ⟨result, ⟨limit, hu⟩, hf, ?_, ?_⟩
      · cases limit <;> simp [serve, hu, answer, waitWithin, hf, hwait]
      · cases limit <;> simp [serve, hu, answer, waitWithin, hf, hwait]
    | none =>
      left
      have hhandle := Source.handle_of_none hf
      rw [hf, hhandle] at hwait
      cases limit with
      | none =>
        apply Record.Misses.unanswered hu hf
        · simp [serve, hu, answer, hf, hhandle, hwait]
        · simp [serve, hu, answer, hf, hhandle, hwait]
      | some limit =>
        apply Record.Misses.expired hu hf
        · simp [serve, hu, answer, waitWithin, hf, hhandle, hwait]
        · simp [serve, hu, answer, waitWithin, hf, hhandle, hwait]

theorem serve_consumed (src : Source ρ) {now : Nat} {result : Result ρ}
    (h : src.found now = some result) (s : Spell) :
    (serve src.found now .consumed s).Late src result := by
  have hf := src.found_stays (Nat.le_add_right now s.pause) h
  cases hu : s.use with
  | look =>
    apply Record.Late.looked hu hf
    · simp [serve, hu, answer, isFinished]
    · simp [serve, hu, answer]
  | wait limit =>
    apply Record.Late.refused hu hf
    · cases limit <;> simp [serve, hu, answer, waitWithin, wait, poll]
    · cases limit <;> simp [serve, hu, answer, waitWithin, wait, poll]

namespace Record

variable {src : Source ρ} {result : Result ρ} {r : Record ρ}

theorem Misses.after_eq (h : r.Misses src) : r.after = src.handle := by
  cases h with
  | expired _ hf _ ha => rw [ha, Source.handle_of_none hf]
  | unanswered _ hf _ ha => rw [ha, Source.handle_of_none hf]
  | looked _ _ ha => exact ha

theorem Late.after_eq (h : r.Late src result) : r.after = .consumed := by
  cases h with
  | refused _ _ _ ha => exact ha
  | looked _ _ _ ha => exact ha

theorem Late.found_begins (h : r.Late src result) : src.found r.begins = some result := by
  cases h with
  | refused _ hf => exact hf
  | looked _ hf => exact hf

end Record

/-- Uses come one after the other. -/
theorem ordered_serveAll (found : Nat → Option (Result ρ)) (now : Nat) (p : Pending Unit ρ)
    (spells : List Spell) :
    (∀ r ∈ serveAll found now p spells, now ≤ r.begins ∧ r.begins ≤ r.ends) ∧
      (serveAll found now p spells).Pairwise fun r later => r.ends ≤ later.begins := by
  induction spells generalizing now p with
  | nil => exact ⟨by simp [serveAll], List.Pairwise.nil⟩
  | cons s rest ih =>
    have hb : (serve found now p s).begins = now + s.pause := rfl
    have he : (serve found now p s).ends = now + s.pause + s.lasts := rfl
    obtain ⟨hall, hpairs⟩ := ih (serve found now p s).ends (serve found now p s).after
    rw [serveAll]
    constructor
    · intro r hr
      rcases List.mem_cons.mp hr with rfl | hr
      · omega
      · have := hall r hr
        omega
    · rw [List.pairwise_cons]
      exact ⟨fun r hr => (hall r hr).1, hpairs⟩

theorem serveAll_consumed (src : Source ρ) {now : Nat} {result : Result ρ}
    (h : src.found now = some result) (spells : List Spell) :
    ∀ r ∈ serveAll src.found now .consumed spells, r.Late src result := by
  induction spells generalizing now with
  | nil => simp [serveAll]
  | cons s rest ih =>
    have hlate := serve_consumed src h s
    have hends : src.found (serve src.found now .consumed s).ends = some result :=
      src.found_stays (Nat.le_add_right _ _) hlate.found_begins
    intro r hr
    rw [serveAll, hlate.after_eq] at hr
    rcases List.mem_cons.mp hr with rfl | hr
    · exact hlate
    · exact ih hends r hr

/-- Either no use gets the result, or one does that only misses come before; all that come after are
late. -/
theorem serveAll_handle (src : Source ρ) (now : Nat) (spells : List Spell) :
    (∀ r ∈ serveAll src.found now src.handle spells, r.Misses src) ∨
      ∃ earlier r later result, serveAll src.found now src.handle spells = earlier ++ r :: later ∧
        (∀ e ∈ earlier, e.Misses src) ∧ r.Takes src result ∧ ∀ l ∈ later, l.Late src result := by
  induction spells generalizing now with
  | nil => exact .inl (by simp [serveAll])
  | cons s rest ih =>
    rw [serveAll]
    rcases serve_handle src now s with hmiss | ⟨result, htakes⟩
    · rw [hmiss.after_eq]
      rcases ih (serve src.found now src.handle s).ends with
        hall | ⟨earlier, r, later, result, heq, hearlier, hr, hlater⟩
      · exact .inl (List.forall_mem_cons.mpr ⟨hmiss, hall⟩)
      · refine .inr ⟨serve src.found now src.handle s :: earlier, r, later, result, ?_,
          List.forall_mem_cons.mpr ⟨hmiss, hearlier⟩, hr, hlater⟩
        rw [heq, List.cons_append]
    · refine .inr ⟨[], _, _, result, rfl, by simp, htakes, ?_⟩
      rw [htakes.after]
      exact serveAll_consumed src htakes.found rest

/-- A use misses the result, gets it, or comes too late. -/
def Record.Kind (src : Source ρ) (r : Record ρ) : Prop :=
  r.Misses src ∨ (∃ result, r.Takes src result) ∨ ∃ result, r.Late src result

theorem kind_of_mem_serveAll {src : Source ρ} {now : Nat} {spells : List Spell} {r : Record ρ}
    (hr : r ∈ serveAll src.found now src.handle spells) : r.Kind src := by
  rcases serveAll_handle src now spells with
    hall | ⟨earlier, taker, later, result, heq, hearlier, htakes, hlater⟩
  · exact .inl (hall r hr)
  · rw [heq, List.mem_append, List.mem_cons] at hr
    rcases hr with hr | rfl | hr
    · exact .inl (hearlier r hr)
    · exact .inr (.inl ⟨result, htakes⟩)
    · exact .inr (.inr ⟨result, hlater r hr⟩)

namespace Record.Kind

variable {src : Source ρ} {r : Record ρ}

theorem expires (h : r.Kind src) {limit : Duration}
    (hr : r.reply = .result (.error (.waitTimeout limit))) :
    (src.found r.ends = none ∧ r.after = .inFlight ()) ∨
      src.found r.ends = some (.error (.waitTimeout limit)) := by
  rcases h with hmiss | ⟨result, htakes⟩ | ⟨result, hlate⟩
  · cases hmiss with
    | expired _ hf _ ha => exact .inl ⟨hf, ha⟩
    | unanswered _ hf _ ha => exact .inl ⟨hf, ha⟩
    | looked _ hlook => simp [hlook] at hr
  · have hreply := htakes.reply
    rw [hr, Reply.result.injEq] at hreply
    rw [htakes.found, ← hreply]
    exact .inr rfl
  · cases hlate with
    | refused _ _ hrefused => simp [hrefused] at hr
    | looked _ _ hlook => simp [hlook] at hr

theorem prompt (h : r.Kind src) (hle : r.begins ≤ r.ends) {limit : Option Duration}
    {result : Result ρ} (hu : r.use = .wait limit) (hf : src.found r.begins = some result) :
    r.reply = .result result ∨ r.reply = .result (.error (.usage .resultAlreadyTaken)) := by
  have hends := src.found_stays hle hf
  rcases h with hmiss | ⟨other, htakes⟩ | ⟨other, hlate⟩
  · cases hmiss with
    | expired _ hnone => simp [hnone] at hends
    | unanswered _ hnone => simp [hnone] at hends
    | looked hlook => simp [hlook] at hu
  · rw [htakes.found, Option.some.injEq] at hends
    rw [htakes.reply, hends]
    exact .inl rfl
  · cases hlate with
    | refused _ _ hrefused => exact .inr hrefused
    | looked hlook => simp [hlook] at hu

theorem looks (h : r.Kind src) (hle : r.begins ≤ r.ends) (hu : r.use = .look) :
    r.reply = .finished (src.found r.ends).isSome := by
  rcases h with hmiss | ⟨result, htakes⟩ | ⟨result, hlate⟩
  · cases hmiss with
    | expired hwait => simp [hwait] at hu
    | unanswered hwait => simp [hwait] at hu
    | looked _ hr => exact hr
  · obtain ⟨limit, hwait⟩ := htakes.waits
    simp [hwait] at hu
  · cases hlate with
    | refused hwait => simp [hwait] at hu
    | looked _ hf hr => rw [hr, src.found_stays hle hf, Option.isSome_some]

theorem found_of_finished (h : r.Kind src) (hle : r.begins ≤ r.ends)
    (hr : r.reply = .finished true) : ∃ result, src.found r.ends = some result := by
  rcases h with hmiss | ⟨result, htakes⟩ | ⟨result, hlate⟩
  · cases hmiss with
    | expired _ _ hexpired => simp [hexpired] at hr
    | unanswered _ _ hnone => simp [hnone] at hr
    | looked _ hlook =>
      rw [hlook, Reply.finished.injEq] at hr
      exact Option.isSome_iff_exists.mp hr
  · exact ⟨result, htakes.found⟩
  · exact ⟨result, src.found_stays hle hlate.found_begins⟩

end Record.Kind

/-- What all uses of a handle come to together. -/
structure Law (src : Source ρ) (records : List (Record ρ)) : Prop where
  /-- The first wait that finds the result gets it, and nobody after that. -/
  once : (∀ r ∈ records, r.Misses src) ∨
    ∃ earlier r later result, records = earlier ++ r :: later ∧
      (∀ e ∈ earlier, e.Misses src) ∧ r.Takes src result ∧ ∀ l ∈ later, l.Late src result
  /-- A timeout means that there was no result at the end, unless it is the result. -/
  expires : ∀ r ∈ records, ∀ limit, r.use = .wait (some limit) →
    r.reply = .result (.error (.waitTimeout limit)) →
    (src.found r.ends = none ∧ r.after = .inFlight ()) ∨
      src.found r.ends = some (.error (.waitTimeout limit))
  /-- Once the result is there a wait does not expire, however short it is. -/
  prompt : ∀ r ∈ records, ∀ limit result, r.use = .wait limit →
    src.found r.begins = some result →
    r.reply = .result result ∨ r.reply = .result (.error (.usage .resultAlreadyTaken))
  looks : ∀ r ∈ records, r.use = .look → r.reply = .finished (src.found r.ends).isSome
  steady : records.Pairwise fun r later =>
    r.reply = .finished true → later.use = .look → later.reply = .finished true

/-- Any uses of a handle, in any order and at any times, obey the law. -/
theorem law_serveAll (src : Source ρ) (now : Nat) (spells : List Spell) :
    Law src (serveAll src.found now src.handle spells) := by
  obtain ⟨hbounds, hordered⟩ := ordered_serveAll src.found now src.handle spells
  constructor
  · exact serveAll_handle src now spells
  · intro r hr limit _ hreply
    exact (kind_of_mem_serveAll hr).expires hreply
  · intro r hr limit result hu hf
    exact (kind_of_mem_serveAll hr).prompt (hbounds r hr).2 hu hf
  · intro r hr hu
    exact (kind_of_mem_serveAll hr).looks (hbounds r hr).2 hu
  · apply hordered.imp_of_mem
    intro r later hr hlater hle hreply hu
    obtain ⟨result, hf⟩ := (kind_of_mem_serveAll hr).found_of_finished (hbounds r hr).2 hreply
    have hstays := src.found_stays (Nat.le_trans hle (hbounds later hlater).2) hf
    rw [(kind_of_mem_serveAll hlater).looks (hbounds later hlater).2 hu, hstays,
      Option.isSome_some]

/-- Polls a handle at some moments, until one of them finds something. -/
def pollAt (found : Nat → Option (Result ρ)) (p : Pending Unit ρ) :
    List Nat → Pending Unit ρ × Option (Result ρ)
  | [] => (p, none)
  | n :: rest =>
    match p.poll fun _ => found n with
    | (p, some result) => (p, some result)
    | (p, none) => pollAt found p rest

theorem pollAt_handle (src : Source ρ) {n : Nat} {moments : List Nat}
    (hle : ∀ k ∈ moments, k ≤ n) :
    pollAt src.found src.handle (moments ++ [n]) =
      match src.found n with
      | some result => (.consumed, some result)
      | none => (src.handle, none) := by
  induction moments with
  | nil =>
    rw [List.nil_append, pollAt, poll_handle]
    cases src.found n <;> rfl
  | cons k rest ih =>
    rw [List.cons_append, pollAt, poll_handle]
    cases hk : src.found k with
    | none => exact ih fun j hj => hle j (List.mem_cons_of_mem k hj)
    | some result => rw [src.found_stays (hle k List.mem_cons_self) hk]

/-- It does not matter how often a wait polls between its begin and its end. -/
theorem pollAt_eq_wait (src : Source ρ) {m n : Nat} {moments : List Nat} (hmn : m ≤ n)
    (hle : ∀ k ∈ moments, k ≤ n) :
    pollAt src.found src.handle (m :: moments ++ [n]) =
      src.handle.wait (fun _ => src.found m) (fun _ => src.found n) := by
  rw [wait_handle src hmn, pollAt_handle src (List.forall_mem_cons.mpr ⟨hmn, hle⟩)]

end CqlOperations.Pending
