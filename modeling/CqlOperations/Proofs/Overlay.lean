import CqlOperations.Statement
import Mathlib.Data.List.Forall2

/-! Options lie over the settings of a statement. What they set takes the place of what was there;
the other settings and all else about the statement stay as they are. Of several options that are
applied in turn the last one that sets something counts. An executor and a handler are no part of a
statement. -/
namespace CqlOperations

attribute [ext] Query

/-- The policy object that a kind stands for. -/
inductive RetryPolicyKind.Means : RetryPolicyKind → RetryPolicy → Prop where
  | default : Means .default .default
  | downgradingConsistency : Means .downgradingConsistency .downgradingConsistency
  | fallthrough : Means .fallthrough .fallthrough
  | custom (description : String) : Means (.custom description) (.custom description)

namespace RetryPolicyKind

variable {kind : RetryPolicyKind} {policy : RetryPolicy}

theorem means_resolve (kind : RetryPolicyKind) : kind.Means kind.resolve := by
  cases kind with
  | default => exact .default
  | downgradingConsistency => exact .downgradingConsistency
  | fallthrough => exact .fallthrough
  | custom description => exact .custom description

/-- A kind stands for one policy object. -/
theorem Means.eq_resolve (h : kind.Means policy) : policy = kind.resolve := by
  cases h <;> rfl

end RetryPolicyKind

/-- Tasks run on the executor that the options set, or else inline. -/
inductive Options.RunsOn (o : Options) : Executor → Prop where
  | set {executor : Executor} (h : o.executor = some executor) : o.RunsOn executor
  | unset (h : o.executor = none) : o.RunsOn .inline

theorem Options.runsOn_taskExecutor (o : Options) : o.RunsOn o.taskExecutor := by
  unfold taskExecutor
  cases h : o.executor with
  | none => exact .unset h
  | some executor => exact .set h

/-- Each option as `later` sets it, or else as `first` does. -/
def Options.followedBy (first later : Options) : Options where
  consistency := later.consistency.or first.consistency
  serial := later.serial.or first.serial
  retry := later.retry.or first.retry
  tracing := later.tracing.or first.tracing
  idempotent := later.idempotent.or first.idempotent
  timestamp := later.timestamp.or first.timestamp
  executor := later.executor.or first.executor
  handler := later.handler.or first.handler

theorem Options.followedBy_self (o : Options) : o.followedBy o = o := by
  simp only [followedBy, Option.or_self]

namespace Settings

/-- What the options set is there. A serial consistency may be set to none. -/
structure Takes (s : Settings) (o : Options) : Prop where
  consistency : ∀ level, o.consistency = some level → s.consistency = some level
  serial : ∀ level, o.serial = some level → s.serial = some level
  retry : ∀ kind, o.retry = some kind → ∃ policy, kind.Means policy ∧ s.retry = some policy
  tracing : ∀ enabled, o.tracing = some enabled → s.tracing = enabled
  idempotent : ∀ enabled, o.idempotent = some enabled → s.idempotent = enabled
  timestamp : ∀ time, o.timestamp = some time → s.timestamp = some time

/-- What the options do not set is as it was before. -/
structure Inherits (s before : Settings) (o : Options) : Prop where
  consistency : o.consistency = none → s.consistency = before.consistency
  serial : o.serial = none → s.serial = before.serial
  retry : o.retry = none → s.retry = before.retry
  tracing : o.tracing = none → s.tracing = before.tracing
  idempotent : o.idempotent = none → s.idempotent = before.idempotent
  timestamp : o.timestamp = none → s.timestamp = before.timestamp

theorem takes_overlay (s : Settings) (o : Options) : (s.overlay o).Takes o where
  consistency level h := by simp [overlay, h]
  serial level h := by simp [overlay, h]
  retry kind h := ⟨kind.resolve, kind.means_resolve, by simp [overlay, h]⟩
  tracing enabled h := by simp [overlay, h]
  idempotent enabled h := by simp [overlay, h]
  timestamp time h := by simp [overlay, h]

theorem inherits_overlay (s : Settings) (o : Options) : (s.overlay o).Inherits s o where
  consistency h := by rw [overlay, h]; rfl
  serial h := by rw [overlay, h]; rfl
  retry h := by rw [overlay, h]; rfl
  tracing h := by rw [overlay, h]; rfl
  idempotent h := by rw [overlay, h]; rfl
  timestamp h := by rw [overlay, h]; rfl

private theorem eq_or {α : Type} {x new old : Option α} (ht : ∀ a, new = some a → x = some a)
    (hi : new = none → x = old) : x = new.or old := by
  cases new with
  | none => exact hi rfl
  | some a => exact ht a rfl

private theorem eq_getD {α : Type} {x old : α} {new : Option α} (ht : ∀ a, new = some a → x = a)
    (hi : new = none → x = old) : x = new.getD old := by
  cases new with
  | none => exact hi rfl
  | some a => exact ht a rfl

/-- There is one way to take what is set and to inherit the rest. -/
theorem eq_overlay {s before : Settings} {o : Options} (ht : s.Takes o)
    (hi : s.Inherits before o) : s = before.overlay o := by
  have hretry : ∀ policy, o.retry.map RetryPolicyKind.resolve = some policy →
      s.retry = some policy := by
    intro policy h
    obtain ⟨kind, hk, rfl⟩ := Option.map_eq_some_iff.mp h
    obtain ⟨policy, hmeans, hs⟩ := ht.retry kind hk
    rw [hs, hmeans.eq_resolve]
  have hkept : o.retry.map RetryPolicyKind.resolve = none → s.retry = before.retry := by
    intro h
    exact hi.retry (Option.map_eq_none_iff.mp h)
  calc
    s = ⟨s.consistency, s.serial, s.retry, s.tracing, s.idempotent, s.timestamp⟩ := rfl
    _ = before.overlay o := by
      rw [overlay, eq_or ht.consistency hi.consistency, eq_or ht.serial hi.serial,
        eq_or hretry hkept, eq_getD ht.tracing hi.tracing,
        eq_getD ht.idempotent hi.idempotent, eq_or ht.timestamp hi.timestamp]

theorem overlay_followedBy (s : Settings) (first later : Options) :
    (s.overlay first).overlay later = s.overlay (first.followedBy later) := by
  simp only [overlay, Options.followedBy, Option.or_assoc, Option.map_or, Option.getD_or]

/-- The same options act once. -/
theorem overlay_overlay_self (s : Settings) (o : Options) :
    (s.overlay o).overlay o = s.overlay o := by
  rw [overlay_followedBy, Options.followedBy_self]

theorem overlay_of_unset (s : Settings) (executor : Option Executor) (handler : Option Handler) :
    s.overlay { executor, handler } = s := by
  simp only [overlay, Option.none_or, Option.map_none, Option.getD_none]

end Settings

namespace Statement

/-- The values, as one list for each part of a batch. -/
def valueLists : Statement → List (List Value)
  | unprepared _ values => [values]
  | prepared _ values => [values]
  | batch _ _ _ values => values

def batchType? : Statement → Option BatchType
  | batch type _ _ _ => some type
  | _ => none

/-- The parts of a batch, with the settings of their own. -/
def parts : Statement → List Query
  | batch _ parts _ _ => parts
  | _ => []

/-- The statements differ in their settings at most. -/
structure Alike (s t : Statement) : Prop where
  kind : t.kind = s.kind
  text : t.text? = s.text?
  values : t.valueLists = s.valueLists
  batchType : t.batchType? = s.batchType?
  parts : t.parts = s.parts

/-- Nothing else belongs to a statement. -/
theorem Alike.eq {s t : Statement} (h : s.Alike t) (hs : t.settings = s.settings) : t = s := by
  obtain ⟨hkind, htext, hvalues, htype, hparts⟩ := h
  cases s with
  | unprepared query values =>
    cases t with
    | unprepared query' values' =>
      simp only [text?, valueLists, settings, Option.some.injEq, List.cons.injEq, and_true]
        at htext hvalues hs
      rw [hvalues, Query.ext htext hs]
    | prepared query' values' => cases hkind
    | batch type parts own values' => cases hkind
  | prepared query values =>
    cases t with
    | prepared query' values' =>
      simp only [text?, valueLists, settings, Option.some.injEq, List.cons.injEq, and_true]
        at htext hvalues hs
      rw [hvalues, Query.ext htext hs]
    | unprepared query' values' => cases hkind
    | batch type parts own values' => cases hkind
  | batch type parts own values =>
    cases t with
    | batch type' parts' own' values' =>
      simp only [Statement.parts, batchType?, valueLists, settings, Option.some.injEq]
        at hparts htype hvalues hs
      rw [htype, hparts, hvalues, hs]
    | unprepared query' values' => cases hkind
    | prepared query' values' => cases hkind

@[simp] theorem settings_apply (o : Options) (s : Statement) :
    (s.apply o).settings = s.settings.overlay o := by
  cases s <;> rfl

theorem alike_apply (o : Options) (s : Statement) : s.Alike (s.apply o) := by
  cases s <;> exact ⟨rfl, rfl, rfl, rfl, rfl⟩

/-- `t` is `s` under the options. -/
structure Overlaid (s : Statement) (o : Options) (t : Statement) : Prop where
  takes : t.settings.Takes o
  inherits : t.settings.Inherits s.settings o
  alike : s.Alike t

theorem overlaid_apply (o : Options) (s : Statement) : s.Overlaid o (s.apply o) where
  takes := by
    rw [settings_apply]
    exact s.settings.takes_overlay o
  inherits := by
    rw [settings_apply]
    exact s.settings.inherits_overlay o
  alike := alike_apply o s

theorem eq_apply_of_overlaid {s t : Statement} {o : Options} (h : s.Overlaid o t) :
    t = s.apply o := by
  have hs : t.settings = (s.apply o).settings := by
    rw [settings_apply]
    exact Settings.eq_overlay h.takes h.inherits
  have ha := alike_apply o s
  exact Alike.eq
    { kind := h.alike.kind.trans ha.kind.symm
      text := h.alike.text.trans ha.text.symm
      values := h.alike.values.trans ha.values.symm
      batchType := h.alike.batchType.trans ha.batchType.symm
      parts := h.alike.parts.trans ha.parts.symm } hs

theorem overlaid_iff {s t : Statement} {o : Options} : s.Overlaid o t ↔ t = s.apply o := by
  refine ⟨eq_apply_of_overlaid, ?_⟩
  rintro rfl
  exact overlaid_apply o s

theorem forall₂_overlaid_iff {ss ts : List Statement} {o : Options} :
    List.Forall₂ (fun s t => s.Overlaid o t) ss ts ↔ ts = ss.map (apply o) := by
  simp only [overlaid_iff]
  constructor
  · intro h
    induction h with
    | nil => rfl
    | cons hs _ ih => rw [List.map_cons, hs, ih]
  · rintro rfl
    exact List.forall₂_map_right_iff.mpr (List.forall₂_same.mpr fun _ _ => rfl)

/-- A statement is made of its settings and all else, so an equation of settings is one of
statements. -/
theorem apply_apply (s : Statement) (first later : Options) :
    (s.apply first).apply later = s.apply (first.followedBy later) := by
  cases s <;> simp only [apply, Query.apply, Settings.overlay_followedBy]

/-- Applying options to a statement of any kind overlays its settings with what they set and leaves
all else, and nothing but the outcome does that. Options applied in turn act as one, the same options
act once, and options without a setting of a statement do not act. -/
theorem apply_overlays (s : Statement) (o : Options) :
    (∀ t, s.Overlaid o t ↔ t = s.apply o) ∧
      (∀ later : Options, (s.apply o).apply later = s.apply (o.followedBy later)) ∧
      (s.apply o).apply o = s.apply o ∧
      ∀ executor handler, s.apply { executor, handler } = s := by
  refine ⟨fun t => overlaid_iff, apply_apply s o, ?_, fun executor handler => ?_⟩
  · rw [apply_apply, Options.followedBy_self]
  · have hs : (s.apply { executor, handler }).settings = s.settings := by
      rw [settings_apply, Settings.overlay_of_unset]
    exact (alike_apply _ s).eq hs

/-- Cleared, which is not the same as left alone. -/
example : ((ofText "query").apply { serial := some none }).settings.serial = some none ∧
    ((ofText "query").apply {}).settings.serial = none := ⟨rfl, rfl⟩

end Statement
end CqlOperations
