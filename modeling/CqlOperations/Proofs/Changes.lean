import CqlOperations.Options

/-! What a sequence of changes makes of options. Each option is what the last change that touches it
says, and none is a mixture of two. A builder comes to the same. -/
namespace CqlOperations

inductive Options.Name where
  | consistency
  | serial
  | retry
  | tracing
  | idempotent
  | timestamp
  | executor
  | handler
deriving DecidableEq

/-- The option that a setting sets. -/
def Setting.name : Setting → Options.Name
  | consistency _ => .consistency
  | serial _ => .serial
  | retry _ => .retry
  | tracing _ => .tracing
  | idempotent _ => .idempotent
  | timestamp _ => .timestamp
  | executor _ => .executor
  | handler _ => .handler

/-- The option of a name, if it is set. -/
def Options.get? (o : Options) : Name → Option Setting
  | .consistency => o.consistency.map .consistency
  | .serial => o.serial.map .serial
  | .retry => o.retry.map .retry
  | .tracing => o.tracing.map .tracing
  | .idempotent => o.idempotent.map .idempotent
  | .timestamp => o.timestamp.map .timestamp
  | .executor => o.executor.map .executor
  | .handler => o.handler.map .handler

/-- Options are no more than what is set in them. -/
theorem Options.ext_get? {o o' : Options} (h : ∀ n, o.get? n = o'.get? n) : o = o' := by
  have hconsistency : o.consistency = o'.consistency :=
    Option.map_injective (fun _ _ => Setting.consistency.inj) (h .consistency)
  have hserial : o.serial = o'.serial :=
    Option.map_injective (fun _ _ => Setting.serial.inj) (h .serial)
  have hretry : o.retry = o'.retry :=
    Option.map_injective (fun _ _ => Setting.retry.inj) (h .retry)
  have htracing : o.tracing = o'.tracing :=
    Option.map_injective (fun _ _ => Setting.tracing.inj) (h .tracing)
  have hidempotent : o.idempotent = o'.idempotent :=
    Option.map_injective (fun _ _ => Setting.idempotent.inj) (h .idempotent)
  have htimestamp : o.timestamp = o'.timestamp :=
    Option.map_injective (fun _ _ => Setting.timestamp.inj) (h .timestamp)
  have hexecutor : o.executor = o'.executor :=
    Option.map_injective (fun _ _ => Setting.executor.inj) (h .executor)
  have hhandler : o.handler = o'.handler :=
    Option.map_injective (fun _ _ => Setting.handler.inj) (h .handler)
  cases o
  cases o'
  simp_all only

theorem Options.get?_set (o : Options) (x : Setting) (n : Name) :
    (o.set x).get? n = if x.name = n then some x else o.get? n := by
  cases x <;> cases n <;> rfl

namespace Change

/-- Setting an option touches that option, a replacement touches all of them. -/
def Touches (n : Options.Name) : Change → Prop
  | set x => x.name = n
  | replace _ => True

/-- What an option is after a change that touches it. -/
def value? (n : Options.Name) : Change → Option Setting
  | set x => some x
  | replace o => o.get? n

end Change

namespace Options

variable {o start final : Options} {n : Name} {changes : List Change}

theorem get?_change_of_touches {c : Change} (h : c.Touches n) :
    (o.change c).get? n = c.value? n := by
  cases c with
  | set x =>
    have hx : x.name = n := h
    rw [change, get?_set, if_pos hx]
    rfl
  | replace o' => rfl

theorem get?_change_of_not_touches {c : Change} (h : ¬ c.Touches n) :
    (o.change c).get? n = o.get? n := by
  cases c with
  | set x =>
    have hx : ¬ x.name = n := h
    rw [change, get?_set, if_neg hx]
  | replace o' => exact absurd trivial h

theorem get?_foldl_of_not_touches (h : ∀ c ∈ changes, ¬ c.Touches n) :
    (changes.foldl change o).get? n = o.get? n := by
  induction changes generalizing o with
  | nil => rfl
  | cons c rest ih =>
    rw [List.foldl_cons, ih fun d hd => h d (List.mem_cons_of_mem c hd)]
    exact get?_change_of_not_touches (h c List.mem_cons_self)

theorem get?_foldl_of_last {before after : List Change} {c : Change} (h : c.Touches n)
    (hafter : ∀ d ∈ after, ¬ d.Touches n) :
    ((before ++ c :: after).foldl change o).get? n = c.value? n := by
  rw [List.foldl_append, List.foldl_cons, get?_foldl_of_not_touches hafter]
  exact get?_change_of_touches h

/-- `final` is what `changes` make of `start`: of each option the last change counts, whatever was
there before it. -/
structure LastWins (start : Options) (changes : List Change) (final : Options) : Prop where
  written : ∀ before x after, changes = before ++ .set x :: after →
    (∀ c ∈ after, ¬ c.Touches x.name) → final.get? x.name = some x
  /-- An option that the new options do not set is not set any more. -/
  replaced : ∀ before o after n, changes = before ++ .replace o :: after →
    (∀ c ∈ after, ¬ c.Touches n) → final.get? n = o.get? n
  kept : ∀ n, (∀ c ∈ changes, ¬ c.Touches n) → final.get? n = start.get? n

theorem lastWins_foldl (start : Options) (changes : List Change) :
    LastWins start changes (changes.foldl change start) where
  written before x after h hafter := by
    subst h
    exact get?_foldl_of_last (c := .set x) rfl hafter
  replaced before o after n h hafter := by
    subst h
    exact get?_foldl_of_last (c := .replace o) trivial hafter
  kept n h := get?_foldl_of_not_touches h

/-- The serial consistency is cleared, which is not the same as leaving it unset. -/
example : [Change.set (.timestamp 1), .replace { tracing := some true }, .set (.serial none)].foldl
    change {} = { tracing := some true, serial := some none } := rfl

/-- An option is touched for a last time, or it is not touched at all. -/
theorem exists_last_touch (n : Name) (changes : List Change) :
    (∃ before c after, changes = before ++ c :: after ∧ c.Touches n ∧
      ∀ d ∈ after, ¬ d.Touches n) ∨ ∀ c ∈ changes, ¬ c.Touches n := by
  induction changes with
  | nil => exact .inr (by simp)
  | cons c rest ih =>
    rcases ih with ⟨before, last, after, rfl, hlast, hafter⟩ | hnone
    · exact .inl ⟨c :: before, last, after, rfl, hlast, hafter⟩
    · by_cases hc : c.Touches n
      · exact .inl ⟨[], c, rest, rfl, hc, hnone⟩
      · exact .inr (List.forall_mem_cons.mpr ⟨hc, hnone⟩)

/-- What the last changes say determines all options. -/
theorem LastWins.eq (h : LastWins start changes final) : final = changes.foldl change start := by
  apply ext_get?
  intro n
  rcases exists_last_touch n changes with ⟨before, c, after, rfl, hc, hafter⟩ | hnone
  · rw [get?_foldl_of_last hc hafter]
    cases c with
    | set x =>
      obtain rfl : x.name = n := hc
      exact h.written before x after rfl hafter
    | replace o => exact h.replaced before o after n rfl hafter
  · rw [get?_foldl_of_not_touches hnone]
    exact h.kept n hnone

theorem lastWins_iff : LastWins start changes final ↔ final = changes.foldl change start := by
  refine ⟨LastWins.eq, ?_⟩
  rintro rfl
  exact lastWins_foldl start changes

/-- Changes of what changes came to. -/
theorem LastWins.append {more : List Change} (h : LastWins start changes o)
    (hmore : LastWins o more final) : LastWins start (changes ++ more) final := by
  rw [lastWins_iff] at h hmore ⊢
  rw [List.foldl_append, hmore, h]

/-- A builder takes what an operation takes. -/
def Builder.change (b : Builder) : Change → Builder
  | .set x => b.set x
  | .replace o => o.toBuilder

theorem Builder.build_foldl_change (b : Builder) (changes : List Change) :
    (changes.foldl Builder.change b).build = changes.foldl Options.change b.build := by
  induction changes generalizing b with
  | nil => rfl
  | cons c rest ih =>
    rw [List.foldl_cons, List.foldl_cons, ih]
    cases c <;> rfl

end Options
end CqlOperations
