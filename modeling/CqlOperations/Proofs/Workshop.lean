import CqlOperations.Proofs.Bare
import CqlOperations.Proofs.Changes
import CqlOperations.Proofs.Folding
import CqlOperations.Session.Extraction
import Mathlib.Data.List.GetD
import Mathlib.Data.List.Induction

/-! Templates and operations side by side, in any order of calls. An operation takes down the default
options of its template once, when it is created. Who sets the defaults later changes what operations
are created with from then on, and nothing about those that are there. -/
namespace CqlOperations

variable {σ : Type}

/-- The calls of a template that create an operation. -/
inductive Making (σ : Type) where
  | single (creator : Creator σ)
  | batch (type : BatchType) (creators : List (Creator σ))
  | ingest (type : BatchType) (statement : Statement) (rows : List (List Value))
  | truncate (table : String)
  | count (table : String)

namespace Template

def make (t : Template) (d : Defaults) : Making σ → Operation σ Response
  | .single creator => t.execute d creator
  | .batch type creators => t.batch d type creators
  | .ingest type statement rows => t.ingest d type statement rows
  | .truncate table => t.truncate d table
  | .count table => t.countAll d table

theorem options_make (t : Template) (d : Defaults) (m : Making σ) :
    (t.make d m).options = t.defaults d := by
  cases m <;> rfl

/-- The defaults matter to the options of a new operation and to nothing else. -/
theorem bare_make (t : Template) (d d' : Defaults) (m : Making σ) :
    (t.make d m).bare = (t.make d' m).bare := by
  cases m <;> rfl

/-- A new template has a cell that no other template has. -/
theorem build_eq_ok {b : Builder} {context : Option Runtime} {d d' : Defaults} {t : Template}
    (h : b.build context d = .ok (t, d')) :
    t.cell = d.cells.length ∧ d'.cells = d.cells ++ [b.options] := by
  unfold Builder.build at h
  split at h
  next =>
    cases h
    exact ⟨rfl, rfl⟩
  next => cases h

/-- What is built does not depend on the defaults that are there, but for their number. -/
theorem build_congr {d d' : Defaults} (h : d'.cells.length = d.cells.length) (b : Builder)
    (context : Option Runtime) :
    (b.build context d').map Prod.fst = (b.build context d).map Prod.fst := by
  unfold Builder.build create
  split
  next => simp only [Except.map, h]
  next => rfl

end Template

/-- What can be done with an operation. Only a preview and an execution leave it what it was. -/
inductive Use where
  | change (c : Change)
  | transform (processor : Processor Response)
  | fold
  | preview
  | execute (path : Path)

/-- The change that a use makes, if it is one. -/
def Use.change? : Use → Option Change
  | change c => some c
  | _ => none

/-- What is seen of an operation in use. -/
inductive Observation where
  | previewed (statement : Except OperationError Statement)
  | executed (executor : Executor) (submitted : Except OperationError (Submission Response))
      (actions : List (Action Response))

namespace Operation

/-- What takes the place of an operation that is put to a use, the state after that, and what was
seen. One that cannot be folded is left as it is. -/
def use (o : Operation σ Response) (state : σ) :
    Use → Operation σ Response × σ × List Observation
  | .change c => (o.change c, state, [])
  | .transform processor => (o.transform processor, state, [])
  | .fold =>
    match o.folded state with
    | (.ok folded, after) => (folded, after, [])
    | (.error _, after) => (o, after, [])
  | .preview =>
    let (shown, after) := o.toStatement state
    (o, after, [.previewed shown])
  | .execute path =>
    let (submitted, actions, after) := o.submit path state
    (o, after, [.executed o.options.taskExecutor submitted actions])

theorem options_use (o : Operation σ Response) (state : σ) (u : Use) :
    (o.use state u).1.options = u.change?.toList.foldl Options.change o.options := by
  cases u with
  | fold =>
    unfold use
    dsimp only
    split
    next hf =>
      obtain ⟨statement, -, rfl⟩ := folded_eq_ok hf
      rfl
    next => rfl
  | _ => rfl

/-- Operations that differ in their options are still alike after the same use, and so is the state
that they leave. -/
theorem use_congr {o o' : Operation σ Response} (h : o'.bare = o.bare) (state : σ) (u : Use) :
    (o'.use state u).1.bare = (o.use state u).1.bare ∧
      (o'.use state u).2.1 = (o.use state u).2.1 := by
  cases u with
  | change c => exact ⟨h, rfl⟩
  | transform processor => exact ⟨congrArg (·.transform processor) h, rfl⟩
  | preview => exact ⟨h, state_toStatement_congr h state⟩
  | execute path => exact ⟨h, state_submit_congr h state path⟩
  | fold =>
    have hf := folded_congr h state
    unfold use
    cases hfo : o.folded state with
    | mk made after =>
      cases hfo' : o'.folded state with
      | mk made' after' =>
        simp only [hfo, hfo'] at hf
        obtain ⟨hmade, hafter⟩ := hf
        cases made with
        | error error =>
          cases made' with
          | error error' => exact ⟨h, hafter⟩
          | ok folded' => cases hmade
        | ok folded =>
          cases made' with
          | error error' => cases hmade
          | ok folded' => exact ⟨Except.ok.inj hmade, hafter⟩

/-- A folded operation is made like any other, under whatever defaults are set by then; the options
that it was folded with take their place. -/
theorem folded_eq_execute {o f : Operation σ Response} {state after : σ}
    (h : o.folded state = (.ok f, after)) (hl : o.layers = []) (t : Template)
    (ht : t.translator = o.translator) (hr : t.runtime = o.runtime) :
    ∃ statement, ∀ d, f = (t.execute d (.constant statement)).withOptions o.options := by
  obtain ⟨statement, -, rfl⟩ := folded_eq_ok h
  refine ⟨statement, fun d => ?_⟩
  simp only [Template.execute, Template.operation, withOptions, change, Options.change, ht, hr, hl]

end Operation

inductive Act (σ : Type) where
  | build (b : Template.Builder) (context : Option Runtime)
  | clone (template : Nat)
  | setDefaults (template : Nat) (options : Options)
  | make (template : Nat) (making : Making σ)
  | use (operation : Nat) (u : Use)
  /-- What creators read changes by itself. -/
  | outside (f : σ → σ)

/-- Templates and operations are known by their positions. A template comes with the position of the
first one of its family, which all others of the family are clones of. `log` is what was seen of
operations in use. -/
structure Workshop (σ : Type) where
  state : σ
  templates : List (Nat × Template) := []
  defaults : Defaults := {}
  operations : List (Operation σ Response) := []
  log : List (Nat × Observation) := []

namespace Act

/-- The act gives these default options to a family of templates. -/
def Gives (w : Workshop σ) (family : Nat) (options : Options) : Act σ → Prop
  | build b context =>
    family = w.templates.length ∧ options = b.options ∧
      ∃ made, b.build context w.defaults = .ok made
  | setDefaults i given => options = given ∧ ∃ t, w.templates[i]? = some (family, t)
  | _ => False

theorem Gives.eq {w : Workshop σ} {family : Nat} {options options' : Options} {a : Act σ}
    (h : a.Gives w family options) (h' : a.Gives w family options') : options = options' := by
  cases a with
  | build b context => exact h.2.1.trans h'.2.1.symm
  | setDefaults i given => exact h.1.trans h'.1.symm
  | _ => cases h

def setsDefaults : Act σ → Bool
  | setDefaults .. => true
  | _ => false

/-- The change that the act makes to the operation at a position. -/
def change? (operation : Nat) : Act σ → Option Change
  | use k u => if k = operation then u.change? else none
  | _ => none

end Act

namespace Workshop

/-- An act on something that is not there does nothing. -/
def step (w : Workshop σ) : Act σ → Workshop σ
  | .build b context =>
    match b.build context w.defaults with
    | .ok (t, defaults) =>
      { w with templates := w.templates ++ [(w.templates.length, t)], defaults }
    | .error _ => w
  | .clone i =>
    match w.templates[i]? with
    | some (family, t) => { w with templates := w.templates ++ [(family, t.clone)] }
    | none => w
  | .setDefaults i options =>
    match w.templates[i]? with
    | some (_, t) => { w with defaults := t.setDefaults options w.defaults }
    | none => w
  | .make i making =>
    match w.templates[i]? with
    | some (_, t) => { w with operations := w.operations ++ [t.make w.defaults making] }
    | none => w
  | .use k u =>
    match w.operations[k]? with
    | some o =>
      let (o, state, seen) := o.use w.state u
      { w with operations := w.operations.set k o, state, log := w.log ++ seen.map (k, ·) }
    | none => w
  | .outside f => { w with state := f w.state }

def run (w : Workshop σ) (acts : List (Act σ)) : Workshop σ :=
  acts.foldl step w

/-- A workshop in which nothing was made yet. -/
def empty (state : σ) : Workshop σ := { state }

theorem run_concat (w : Workshop σ) (acts : List (Act σ)) (a : Act σ) :
    w.run (acts ++ [a]) = (w.run acts).step a :=
  List.foldl_concat ..

/-- How an act changes a workshop, if what it acts on is there. -/
inductive Steps (w : Workshop σ) : Act σ → Workshop σ → Prop where
  | build {b : Template.Builder} {context : Option Runtime} {t : Template} {d : Defaults}
      (hb : b.build context w.defaults = .ok (t, d)) :
      Steps w (.build b context)
        { w with templates := w.templates ++ [(w.templates.length, t)], defaults := d }
  | clone {i : Nat} {entry : Nat × Template} (hi : w.templates[i]? = some entry) :
      Steps w (.clone i) { w with templates := w.templates ++ [entry] }
  | setDefaults {i : Nat} {entry : Nat × Template} (options : Options)
      (hi : w.templates[i]? = some entry) :
      Steps w (.setDefaults i options)
        { w with defaults := entry.2.setDefaults options w.defaults }
  | make {i : Nat} {entry : Nat × Template} (making : Making σ)
      (hi : w.templates[i]? = some entry) :
      Steps w (.make i making)
        { w with operations := w.operations ++ [entry.2.make w.defaults making] }
  | use {k : Nat} {o : Operation σ Response} (u : Use) (hk : w.operations[k]? = some o) :
      Steps w (.use k u)
        { w with
          operations := w.operations.set k (o.use w.state u).1
          state := (o.use w.state u).2.1
          log := w.log ++ (o.use w.state u).2.2.map (k, ·) }
  | outside (f : σ → σ) : Steps w (.outside f) { w with state := f w.state }
  | nothing {a : Act σ} (hg : ∀ family given, ¬ a.Gives w family given)
      (hc : ∀ k, (a.change? k).isSome → w.operations[k]? = none) : Steps w a w

theorem steps (w : Workshop σ) (a : Act σ) : w.Steps a (w.step a) := by
  cases a with
  | build b context =>
    simp only [step]
    cases hb : b.build context w.defaults with
    | ok made => exact .build hb
    | error error =>
      refine .nothing (fun family given hg => ?_) nofun
      obtain ⟨-, -, made, hmade⟩ := hg
      rw [hb] at hmade
      cases hmade
  | clone i =>
    simp only [step]
    cases hi : w.templates[i]? with
    | some entry => exact .clone hi
    | none => exact .nothing (fun _ _ hg => hg) nofun
  | setDefaults i options =>
    simp only [step]
    cases hi : w.templates[i]? with
    | some entry => exact .setDefaults options hi
    | none =>
      refine .nothing (fun family given hg => ?_) nofun
      obtain ⟨-, t, ht⟩ := hg
      rw [hi] at ht
      cases ht
  | make i making =>
    simp only [step]
    cases hi : w.templates[i]? with
    | some entry => exact .make making hi
    | none => exact .nothing (fun _ _ hg => hg) nofun
  | use k u =>
    simp only [step]
    cases hk : w.operations[k]? with
    | some o => exact .use u hk
    | none =>
      refine .nothing (fun _ _ hg => hg) fun j hj => ?_
      by_cases heq : k = j
      · exact heq ▸ hk
      · simp [Act.change?, heq] at hj
  | outside f => exact .outside f

/-! What the defaults of a family are. -/

/-- Of all acts the last that gave something to the family gave these options. -/
def LastGiven (w : Workshop σ) (acts : List (Act σ)) (family : Nat) (options : Options) : Prop :=
  ∃ before act after, acts = before ++ act :: after ∧ act.Gives (w.run before) family options ∧
    ∀ first other rest given, after = first ++ other :: rest →
      ¬ other.Gives (w.run (before ++ act :: first)) family given

namespace LastGiven

variable {w : Workshop σ} {acts : List (Act σ)} {a : Act σ} {family : Nat} {options : Options}

theorem of_gives (h : a.Gives (w.run acts) family options) :
    LastGiven w (acts ++ [a]) family options :=
  ⟨acts, a, [], rfl, h, fun first other rest given hnil => by simp at hnil⟩

theorem concat (h : LastGiven w acts family options)
    (hn : ∀ given, ¬ a.Gives (w.run acts) family given) :
    LastGiven w (acts ++ [a]) family options := by
  obtain ⟨before, act, after, rfl, hgives, hlast⟩ := h
  refine ⟨before, act, after ++ [a], by simp, hgives, fun first other rest given heq => ?_⟩
  rcases List.eq_nil_or_concat rest with rfl | ⟨rest', last, rfl⟩
  · obtain ⟨rfl, hother⟩ := List.append_inj' heq rfl
    cases hother
    exact hn given
  · have hassoc : after ++ [a] = (first ++ other :: rest') ++ [last] := by
      rw [heq, List.concat_eq_append, List.append_assoc]
      rfl
    exact hlast first other rest' given (List.append_inj' hassoc rfl).1

/-- There is one last act at most. -/
theorem eq {options' : Options} (h : LastGiven w acts family options)
    (h' : LastGiven w acts family options') : options = options' := by
  obtain ⟨before, act, after, rfl, hgives, hlast⟩ := h
  obtain ⟨before', act', after', heq, hgives', hlast'⟩ := h'
  rcases List.append_eq_append_iff.mp heq with ⟨between, hb, hr⟩ | ⟨between, hb, hr⟩
  · cases between with
    | nil =>
      rw [List.append_nil] at hb
      cases hr
      subst hb
      exact hgives.eq hgives'
    | cons first more =>
      cases hr
      exact absurd (hb ▸ hgives') (hlast more act' after' options' rfl)
  · cases between with
    | nil =>
      rw [List.append_nil] at hb
      cases hr
      subst hb
      exact hgives.eq hgives'
    | cons first more =>
      cases hr
      exact absurd (hb ▸ hgives) (hlast' more act after options rfl)

end LastGiven

/-- Templates share a cell if they are of one family, and only then. -/
structure Sound (w : Workshop σ) : Prop where
  cells : ∀ p ∈ w.templates, p.2.cell < w.defaults.cells.length
  families : ∀ p ∈ w.templates, p.1 < w.templates.length
  shared : ∀ p ∈ w.templates, ∀ q ∈ w.templates, p.1 = q.1 ↔ p.2.cell = q.2.cell

theorem sound_empty (state : σ) : (empty state).Sound where
  cells _ h := absurd h List.not_mem_nil
  families _ h := absurd h List.not_mem_nil
  shared _ h := absurd h List.not_mem_nil

namespace Sound

variable {w : Workshop σ}

/-- A new template is told from all others both by its family and by its cell. -/
theorem build (h : w.Sound) {b : Template.Builder} {context : Option Runtime} {t : Template}
    {d : Defaults} (hb : b.build context w.defaults = .ok (t, d)) :
    ({ w with templates := w.templates ++ [(w.templates.length, t)], defaults := d } :
      Workshop σ).Sound := by
  obtain ⟨hcell, hcells⟩ := Template.build_eq_ok hb
  have hnew : ∀ p ∈ w.templates, p.1 ≠ w.templates.length ∧ p.2.cell ≠ t.cell := by
    intro p hp
    have hf := h.families p hp
    have hc := h.cells p hp
    omega
  have hmem : ∀ p ∈ w.templates ++ [(w.templates.length, t)],
      p ∈ w.templates ∨ p = (w.templates.length, t) := by
    simp
  constructor
  · intro p hp
    simp only [hcells, List.length_append, List.length_singleton]
    rcases hmem p hp with hp | rfl
    · have hc := h.cells p hp
      omega
    · rw [hcell]
      omega
  · intro p hp
    simp only [List.length_append, List.length_singleton]
    rcases hmem p hp with hp | rfl
    · have hf := h.families p hp
      omega
    · omega
  · intro p hp q hq
    rcases hmem p hp with hp | rfl
    · rcases hmem q hq with hq | rfl
      · exact h.shared p hp q hq
      · exact iff_of_false (hnew p hp).1 (hnew p hp).2
    · rcases hmem q hq with hq | rfl
      · exact iff_of_false (hnew q hq).1.symm (hnew q hq).2.symm
      · exact iff_of_true rfl rfl

theorem step (h : w.Sound) (a : Act σ) : (w.step a).Sound := by
  have hstep := w.steps a
  generalize w.step a = after at hstep ⊢
  cases hstep with
  | build hb => exact h.build hb
  | @clone i entry hi =>
    have hold : ∀ p ∈ w.templates ++ [entry], p ∈ w.templates := by
      intro p hp
      rcases List.mem_append.mp hp with hp | hp
      · exact hp
      · rw [List.mem_singleton.mp hp]
        exact List.mem_of_getElem? hi
    constructor
    · exact fun p hp => h.cells p (hold p hp)
    · intro p hp
      have hf := h.families p (hold p hp)
      simp only [List.length_append]
      omega
    · exact fun p hp q hq => h.shared p (hold p hp) q (hold q hq)
  | setDefaults options hi =>
    refine ⟨fun p hp => ?_, h.families, h.shared⟩
    simp only [Template.setDefaults, List.length_set]
    exact h.cells p hp
  | make making hi => exact ⟨h.cells, h.families, h.shared⟩
  | use u hk => exact ⟨h.cells, h.families, h.shared⟩
  | outside f => exact ⟨h.cells, h.families, h.shared⟩
  | nothing => exact h

theorem run (h : w.Sound) (acts : List (Act σ)) : (w.run acts).Sound := by
  induction acts generalizing w with
  | nil => exact h
  | cons a rest ih => exact ih (h.step a)

/-- Setting the defaults of one template sets those of its whole family, and of no other. -/
theorem defaults_setDefaults (h : w.Sound) {i family family' : Nat} {t t' : Template}
    (hi : w.templates[i]? = some (family', t')) (ht : (family, t) ∈ w.templates)
    (options : Options) :
    t.defaults (t'.setDefaults options w.defaults) =
      if family' = family then options else t.defaults w.defaults := by
  have hshared := h.shared _ (List.mem_of_getElem? hi) _ ht
  have hcell := h.cells _ ht
  simp only [Template.defaults, Template.setDefaults]
  split
  next hf =>
    have hsame : t'.cell = t.cell := hshared.mp hf
    simp [hsame, hcell]
  next hf =>
    have hother : t'.cell ≠ t.cell := fun he => hf (hshared.mpr he)
    simp [hother]

/-- An act gives a family its defaults, or leaves them as they are. -/
theorem defaults_step (h : w.Sound) (a : Act σ) {family : Nat} {t : Template}
    (ht : (family, t) ∈ (w.step a).templates) :
    a.Gives w family (t.defaults (w.step a).defaults) ∨
      (∀ given, ¬ a.Gives w family given) ∧ (family, t) ∈ w.templates ∧
        t.defaults (w.step a).defaults = t.defaults w.defaults := by
  have hstep := w.steps a
  generalize w.step a = after at hstep ht ⊢
  cases hstep with
  | build hb =>
    obtain ⟨hcell, hcells⟩ := Template.build_eq_ok hb
    simp only [Template.defaults, hcells]
    rcases List.mem_append.mp ht with ht | ht
    · have hf := h.families _ ht
      refine .inr ⟨fun given hg => absurd hg.1 (Nat.ne_of_lt hf), ht, ?_⟩
      exact List.getD_append _ _ _ _ (h.cells _ ht)
    · cases List.mem_singleton.mp ht
      refine .inl ⟨rfl, ?_, _, hb⟩
      rw [hcell, List.getD_append_right _ _ _ _ (Nat.le_refl _), Nat.sub_self]
      rfl
  | clone hi =>
    refine .inr ⟨fun _ hg => hg, ?_, rfl⟩
    rcases List.mem_append.mp ht with ht | ht
    · exact ht
    · rw [List.mem_singleton.mp ht]
      exact List.mem_of_getElem? hi
  | @setDefaults i entry options hi =>
    dsimp only
    rw [h.defaults_setDefaults hi ht]
    split
    next hf => exact .inl ⟨rfl, entry.2, hf ▸ hi⟩
    next hf =>
      refine .inr ⟨fun given hg => ?_, ht, rfl⟩
      obtain ⟨-, t', ht'⟩ := hg
      rw [hi] at ht'
      cases ht'
      exact hf rfl
  | make making hi => exact .inr ⟨fun _ hg => hg, ht, rfl⟩
  | use u hk => exact .inr ⟨fun _ hg => hg, ht, rfl⟩
  | outside f => exact .inr ⟨fun _ hg => hg, ht, rfl⟩
  | nothing hg => exact .inr ⟨hg family, ht, rfl⟩

end Sound

theorem lastGiven_run (state : σ) (acts : List (Act σ)) {family : Nat} {t : Template}
    (ht : (family, t) ∈ ((empty state).run acts).templates) :
    LastGiven (empty state) acts family (t.defaults ((empty state).run acts).defaults) := by
  induction acts using List.reverseRecOn with
  | nil => cases ht
  | append_singleton acts a ih =>
    rw [run_concat] at ht ⊢
    rcases ((sound_empty state).run acts).defaults_step a ht with hgives | ⟨hnone, hold, hsame⟩
    · exact .of_gives hgives
    · rw [hsame]
      exact (ih hold).concat hnone

/-! Where the options of an operation come from. -/

/-- The operation at `k` was created with the defaults of the moment, and its options are what its
own changes have made of them since. -/
def Created (w : Workshop σ) (acts : List (Act σ)) (k : Nat) (options : Options) : Prop :=
  ∃ before i making after family t, acts = before ++ .make i making :: after ∧
    (w.run before).templates[i]? = some (family, t) ∧ (w.run before).operations.length = k ∧
      Options.LastWins (t.defaults (w.run before).defaults) (after.filterMap (Act.change? k)) options

theorem Created.concat {w : Workshop σ} {acts : List (Act σ)} {k : Nat} {options : Options}
    (h : Created w acts k options) (a : Act σ) :
    Created w (acts ++ [a]) k ((a.change? k).toList.foldl Options.change options) := by
  obtain ⟨before, i, making, after, family, t, rfl, ht, hk, hlast⟩ := h
  refine ⟨before, i, making, after ++ [a], family, t, by simp, ht, hk, ?_⟩
  rw [List.filterMap_append, List.filterMap_eq_flatMap_toList _ [a], List.flatMap_singleton]
  exact hlast.append (Options.lastWins_foldl _ _)

/-- An operation that is there after an act was there before it, or was created by it. -/
theorem getElem?_operations_step (w : Workshop σ) (a : Act σ) {k : Nat}
    {o : Operation σ Response} (ho : (w.step a).operations[k]? = some o) :
    (∃ old, w.operations[k]? = some old ∧
        o.options = (a.change? k).toList.foldl Options.change old.options) ∨
      ∃ i making family t, a = .make i making ∧ w.templates[i]? = some (family, t) ∧
        w.operations.length = k ∧ o.options = t.defaults w.defaults := by
  have hstep := w.steps a
  generalize w.step a = after at hstep ho
  cases hstep with
  | @make i entry making hi =>
    by_cases hk : k < w.operations.length
    · rw [List.getElem?_append_left hk] at ho
      exact .inl ⟨o, ho, rfl⟩
    · right
      rw [List.getElem?_append_right (Nat.not_lt.mp hk)] at ho
      have hzero : k - w.operations.length = 0 := by
        have hl := (List.getElem?_eq_some_iff.mp ho).1
        simpa using hl
      rw [hzero] at ho
      cases ho
      exact ⟨i, making, entry.1, entry.2, rfl, hi, by omega, entry.2.options_make _ making⟩
  | @use j old u hj =>
    left
    rw [List.getElem?_set] at ho
    simp only [Act.change?]
    split at ho
    next heq =>
      subst heq
      split at ho
      next =>
        cases ho
        exact ⟨old, hj, by simp only [if_true, old.options_use]⟩
      next => cases ho
    next hne => exact ⟨o, ho, by simp only [hne, if_false, Option.toList_none, List.foldl_nil]⟩
  | nothing hg hc =>
    left
    refine ⟨o, ho, ?_⟩
    cases hchange : a.change? k with
    | none => rfl
    | some c =>
      rw [hc k (by rw [hchange]; rfl)] at ho
      cases ho
  | build hb => exact .inl ⟨o, ho, rfl⟩
  | clone hi => exact .inl ⟨o, ho, rfl⟩
  | setDefaults options hi => exact .inl ⟨o, ho, rfl⟩
  | outside f => exact .inl ⟨o, ho, rfl⟩

theorem created_run (state : σ) (acts : List (Act σ)) {k : Nat} {o : Operation σ Response}
    (ho : ((empty state).run acts).operations[k]? = some o) :
    Created (empty state) acts k o.options := by
  induction acts using List.reverseRecOn generalizing o with
  | nil => cases ho
  | append_singleton acts a ih =>
    rw [run_concat] at ho
    rcases getElem?_operations_step _ a ho with
      ⟨old, hold, hoptions⟩ | ⟨i, making, family, t, rfl, ht, hk, hoptions⟩
    · rw [hoptions]
      exact (ih hold).concat a
    · exact ⟨acts, i, making, [], family, t, rfl, ht, hk, Options.lastWins_iff.mpr hoptions⟩

/-! What becomes of an operation does not depend on defaults that are set after its creation. -/

/-- What was seen of one operation, in order. -/
def observed (w : Workshop σ) (k : Nat) : List Observation :=
  w.log.filterMap fun (j, seen) => if j = k then some seen else none

/-- The workshops differ in defaults at most, and in the options of operations from the `n`-th on. -/
structure Agree (n : Nat) (w w' : Workshop σ) : Prop where
  state : w'.state = w.state
  templates : w'.templates = w.templates
  cells : w'.defaults.cells.length = w.defaults.cells.length
  early : n ≤ w.operations.length
  bare : w'.operations.map Operation.bare = w.operations.map Operation.bare
  operations : ∀ k < n, w'.operations[k]? = w.operations[k]?
  observed : ∀ k < n, w'.observed k = w.observed k

namespace Agree

variable {n : Nat} {w w' : Workshop σ}

theorem refl (w : Workshop σ) : Agree w.operations.length w w :=
  ⟨rfl, rfl, rfl, Nat.le_refl _, rfl, fun _ _ => rfl, fun _ _ => rfl⟩

theorem setDefaults (h : Agree n w w') (i : Nat) (options : Options) :
    Agree n (w.step (.setDefaults i options)) w' := by
  simp only [step]
  cases w.templates[i]? with
  | none => exact h
  | some entry =>
    refine ⟨h.state, h.templates, ?_, h.early, h.bare, h.operations, h.observed⟩
    simp only [Template.setDefaults, List.length_set]
    exact h.cells

theorem build (h : Agree n w w') (b : Template.Builder) (context : Option Runtime) :
    Agree n (w.step (.build b context)) (w'.step (.build b context)) := by
  have hb := Template.build_congr h.cells b context
  simp only [step]
  cases hw : b.build context w.defaults with
  | error error =>
    cases hw' : b.build context w'.defaults with
    | error error' => exact h
    | ok made' =>
      rw [hw, hw'] at hb
      cases hb
  | ok made =>
    cases hw' : b.build context w'.defaults with
    | error error' =>
      rw [hw, hw'] at hb
      cases hb
    | ok made' =>
      rw [hw, hw'] at hb
      have ht : made'.1 = made.1 := Except.ok.inj hb
      have hcells : made'.2.cells.length = made.2.cells.length := by
        rw [(Template.build_eq_ok hw).2, (Template.build_eq_ok hw').2]
        simp [h.cells]
      exact ⟨h.state, by simp only [h.templates, ht], hcells, h.early, h.bare, h.operations,
        h.observed⟩

theorem make (h : Agree n w w') (i : Nat) (making : Making σ) :
    Agree n (w.step (.make i making)) (w'.step (.make i making)) := by
  simp only [step, h.templates]
  cases w.templates[i]? with
  | none => exact h
  | some entry =>
    have hl : w'.operations.length = w.operations.length := by
      simpa using congrArg List.length h.bare
    have hearly := h.early
    refine ⟨h.state, rfl, h.cells, ?_, ?_, fun k hk => ?_, h.observed⟩
    · simp only [List.length_append]
      omega
    · simp only [List.map_append, h.bare, List.map_singleton,
        entry.2.bare_make w'.defaults w.defaults making]
    · rw [List.getElem?_append_left (by omega), List.getElem?_append_left (by omega)]
      exact h.operations k hk

theorem use (h : Agree n w w') (j : Nat) (u : Use) :
    Agree n (w.step (.use j u)) (w'.step (.use j u)) := by
  have hbare : w'.operations[j]?.map Operation.bare = w.operations[j]?.map Operation.bare := by
    rw [← List.getElem?_map, ← List.getElem?_map, h.bare]
  have hl : w'.operations.length = w.operations.length := by
    simpa using congrArg List.length h.bare
  have hobserved : ∀ (w : Workshop σ) (seen : List Observation) (k : Nat),
      ({ w with log := w.log ++ seen.map (j, ·) } : Workshop σ).observed k =
        w.observed k ++ if j = k then seen else [] := by
    intro w seen k
    unfold Workshop.observed
    rw [List.filterMap_append, List.filterMap_map]
    congr 1
    split
    next hjk => simp [hjk]
    next hjk => simp [hjk]
  simp only [step]
  cases hw : w.operations[j]? with
  | none =>
    rw [hw, Option.map_none, Option.map_eq_none_iff] at hbare
    rw [hbare]
    exact h
  | some o =>
    rw [hw] at hbare
    obtain ⟨o', hw', ho'⟩ := Option.map_eq_some_iff.mp hbare
    obtain ⟨hused, hstate⟩ := Operation.use_congr ho' w.state u
    simp only [hw', h.state]
    have hsame : j < n → o' = o := by
      intro hj
      have he := h.operations j hj
      rw [hw, hw'] at he
      exact Option.some.inj he
    refine ⟨hstate, h.templates, h.cells, ?_, ?_, fun k hk => ?_, fun k hk => ?_⟩
    · rw [List.length_set]
      exact h.early
    · rw [List.map_set, List.map_set, h.bare, hused]
    · rw [List.getElem?_set, List.getElem?_set, hl, h.operations k hk]
      by_cases hjk : j = k
      · rw [hsame (hjk ▸ hk)]
      · rw [if_neg hjk, if_neg hjk]
    · have hseen := hobserved w (o.use w.state u).2.2 k
      have hseen' := hobserved w' (o'.use w.state u).2.2 k
      refine hseen'.trans (Eq.trans ?_ hseen.symm)
      rw [h.observed k hk]
      by_cases hjk : j = k
      · rw [hsame (hjk ▸ hk)]
      · rw [if_neg hjk, if_neg hjk]

theorem step (h : Agree n w w') {a : Act σ} (ha : a.setsDefaults = false) :
    Agree n (w.step a) (w'.step a) := by
  cases a with
  | build b context => exact h.build b context
  | clone i =>
    simp only [Workshop.step, h.templates]
    cases w.templates[i]? with
    | none => exact h
    | some entry =>
      exact ⟨h.state, rfl, h.cells, h.early, h.bare, h.operations, h.observed⟩
  | setDefaults i options => cases ha
  | make i making => exact h.make i making
  | use k u => exact h.use k u
  | outside f =>
    exact ⟨congrArg f h.state, h.templates, h.cells, h.early, h.bare, h.operations, h.observed⟩

/-- The one goes through all acts, the other through those that set no defaults. -/
theorem run (h : Agree n w w') (acts : List (Act σ)) :
    Agree n (w.run acts) (w'.run (acts.filter fun a => !a.setsDefaults)) := by
  induction acts generalizing w w' with
  | nil => exact h
  | cons a rest ih =>
    cases ha : a.setsDefaults with
    | true =>
      rw [List.filter_cons_of_neg (by simp [ha])]
      cases a with
      | setDefaults i options => exact ih (h.setDefaults i options)
      | _ => cases ha
    | false =>
      rw [List.filter_cons_of_pos (by simp [ha])]
      exact ih (h.step ha)

end Agree

/-- What the defaults set by some acts have to do with the workshop `w` that the acts lead to. -/
structure Snapshots (state : σ) (acts : List (Act σ)) (w : Workshop σ) : Prop where
  /-- A template has what it or a clone of it was given last, or was built with. -/
  defaults : ∀ (i family : Nat) (t : Template), w.templates[i]? = some (family, t) →
    ∀ options, LastGiven (empty state) acts family options ↔ options = t.defaults w.defaults
  options : ∀ (k : Nat) (o : Operation σ Response), w.operations[k]? = some o →
    Created (empty state) acts k o.options
  /-- Setting defaults later on changes no operation that is there, whatever it is turned into, and
  nothing that is seen of it: the statements that it shows and sends, its executor, its handler. -/
  kept : ∀ (later : List (Act σ)) (k : Nat), k < w.operations.length →
    let without := w.run (later.filter fun a => !a.setsDefaults)
    (w.run later).operations[k]? = without.operations[k]? ∧
      (w.run later).observed k = without.observed k
  undisturbed : ∀ later : List (Act σ),
    (w.run later).state = (w.run (later.filter fun a => !a.setsDefaults)).state
  folded : ∀ (k : Nat) (o f : Operation σ Response) (first after : σ),
    w.operations[k]? = some o → o.folded first = (.ok f, after) → o.layers = [] →
      ∀ t : Template, t.translator = o.translator → t.runtime = o.runtime →
        ∃ statement, ∀ d, f = (t.execute d (.constant statement)).withOptions o.options

/-- The default options of a template are taken down by each operation as it is created. In every
order of calls they are what was set last on the template or on any clone of it, an operation has
those of its creation under its own changes, and it never looks at them again. -/
theorem snapshots (state : σ) (acts : List (Act σ)) :
    Snapshots state acts ((empty state).run acts) where
  defaults i family t ht options := by
    have hlast := lastGiven_run state acts (List.mem_of_getElem? ht)
    constructor
    · intro h
      exact h.eq hlast
    · rintro rfl
      exact hlast
  options k o ho := created_run state acts ho
  kept later k hk := by
    have h := (Agree.refl ((empty state).run acts)).run later
    exact ⟨(h.operations k hk).symm, (h.observed k hk).symm⟩
  undisturbed later := ((Agree.refl ((empty state).run acts)).run later).state.symm
  folded _ _ _ _ _ _ hf hl t ht hr := Operation.folded_eq_execute hf hl t ht hr

/-- An operation that a clone creates before the template is given other defaults, and one after. -/
example : ((empty ()).run
    [.build { session := ⟨0⟩, runtime := some .currentThread, options := { tracing := some true } }
        none, .clone 0, .make 1 (.truncate "first"), .setDefaults 0 { timestamp := some 1 },
      .make 1 (.truncate "second"), .use 0 (.change (.set (.idempotent true)))]).operations.map
        Operation.options =
      [{ tracing := some true, idempotent := some true }, { timestamp := some 1 }] := rfl

end Workshop
end CqlOperations
