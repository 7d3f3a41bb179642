import CqlOperations.Proofs.Changes
import CqlOperations.Proofs.Overlay
import CqlOperations.Proofs.Preview
import CqlOperations.Proofs.Simulation.Orders
import CqlOperations.Simulation.Build

/-! Changing the options of an operation and wrapping it commute. However the two are mixed, the
options are what the changes alone make of them, all layers have the same ones, and an execution is
under no other. -/
namespace CqlOperations

open Simulation (Modification Orders Scene Step)

variable {σ ρ : Type}

namespace Operation

/-- `d` is inside of `o`, under any number of transforms. -/
inductive DelegatesTo : Operation σ ρ → Operation σ ρ → Prop where
  | refl (o : Operation σ ρ) : DelegatesTo o o
  | inside {o inner d : Operation σ ρ} (h : o.delegate? = some inner) (hd : DelegatesTo inner d) :
      DelegatesTo o d

theorem eq_of_delegate? {o inner : Operation σ ρ} (h : o.delegate? = some inner) :
    inner = { o with layers := o.layers.dropLast } := by
  unfold delegate? at h
  split at h
  next => exact (Option.some.inj h).symm
  next => cases h

/-- A delegate has fewer layers, and shares all else. -/
theorem DelegatesTo.eq {o d : Operation σ ρ} (h : o.DelegatesTo d) :
    d = { o with layers := d.layers } := by
  induction h with
  | refl => rfl
  | inside h _ ih =>
    rw [eq_of_delegate? h] at ih
    exact ih

theorem statements_of_submit {o : Operation σ ρ} {path : Path} {state : σ} {s : Submission ρ}
    (h : (o.submit path state).1 = .ok s) : (o.createStatements state).1 = .ok s.statements := by
  unfold submit at h
  dsimp only at h
  split at h
  next => cases h
  next heq =>
    cases h
    exact heq

/-- What a preview shows is under the options, and so is each part of a batch. -/
def ShowsUnder (o : Operation σ ρ) (options : Options) (state : σ) (shown : Statement) : Prop :=
  match o.base with
  | .single creator => ∃ created, (creator.create state).1 = .ok created ∧
      created.Overlaid options shown
  | .fanOut type creators => ∃ created parts batch,
      (Creator.createAll creators state).1 = .ok created ∧
        List.Forall₂ (fun c p => c.Overlaid options p) created parts ∧
        Statement.fold type parts = .ok batch ∧ batch.Overlaid options shown
  | .known statement _ => statement.Overlaid options shown

theorem showsUnder_of_toStatement {o : Operation σ ρ} {state : σ} {shown : Statement}
    (h : (o.toStatement state).1 = .ok shown) : o.ShowsUnder o.options state shown := by
  unfold ShowsUnder
  unfold toStatement at h
  cases hb : o.base with
  | single creator =>
    simp only [hb] at h
    cases hc : (creator.create state).1 with
    | error error => simp [hc] at h
    | ok created =>
      simp only [hc, Except.ok.injEq] at h
      exact ⟨created, hc, Statement.overlaid_iff.mpr h.symm⟩
  | fanOut type creators =>
    have hcreators : o.creators = creators := by rw [Operation.creators, hb]
    simp only [hb, createStatements_eq, hcreators] at h
    cases hc : (Creator.createAll creators state).1 with
    | error error => simp [hc, Except.map] at h
    | ok created =>
      simp only [hc, Except.map] at h
      cases hf : Statement.fold type (created.map (Statement.apply o.options)) with
      | error error => simp [hf] at h
      | ok batch =>
        simp only [hf, Except.ok.injEq] at h
        exact ⟨created, _, batch, hc, Statement.forall₂_overlaid_iff.mpr rfl, hf,
          Statement.overlaid_iff.mpr h.symm⟩
  | known statement result =>
    simp only [hb, Except.ok.injEq] at h
    exact Statement.overlaid_iff.mpr h.symm

/-- The operation is under these options, in all that it shows, sends and hands over. -/
structure Under (o : Operation String ρ) (options : Options) : Prop where
  same : o.options = options
  shows : ∀ state shown, (o.toStatement state).1 = .ok shown → o.ShowsUnder options state shown
  creates : ∀ path state s, (o.submit path state).1 = .ok s →
    ∃ created, (Creator.createAll o.creators state).1 = .ok created ∧
      List.Forall₂ (fun c t => c.Overlaid options t) created s.statements
  /-- The session receives what was submitted. -/
  sends : ∀ path state s, (o.submit path state).1 = .ok s →
    ∀ (env : Environment ρ) (moves : List Move) (i : Nat) (statement : Statement),
      (i, statement) ∈ ((Course.start s).run env moves).sent → s.statements[i]? = some statement
  /-- The execution keeps its executor and its handler, whatever a script goes on to do. -/
  executes : ∀ (scene : Scene ρ) path name s, (o.submit path scene.state).1 = .ok s →
    ∃ executor, options.RunsOn executor ∧ ∀ steps : List (Step ρ),
      (steps.foldl (fun scene step => (scene.step step).1)
          (scene.launch o path name).1).world.orders[scene.world.flows.length]? =
        some ⟨executor, ⟨o.translator, path, options.handler⟩, s.statements⟩
  reports : ∀ path state,
    Execution.ReportsTo options.handler (o.submit path state).2.1 ∧
      ∀ s signals, (o.submit path state).1 = .ok s →
        Execution.ReportsTo options.handler (s.execution.run signals).2

end Operation

/-- The session receives a statement from the request at its position only. -/
theorem Course.Logged.getElem?_of_sent {env : Environment ρ} {all : List Statement} {c : Course ρ}
    (h : c.Logged env all) {i : Nat} {statement : Statement} (hs : (i, statement) ∈ c.sent) :
    all[i]? = some statement := by
  have hr : statement ∈ c.received i :=
    List.mem_map.mpr ⟨(i, statement), List.mem_filter.mpr ⟨hs, by simp⟩, rfl⟩
  exact Option.mem_toList.mp ((h.received_isPrefix i).subset hr)

/-- Orders are for good. -/
theorem Simulation.Scene.orders_foldl_step (s : Scene ρ) (steps : List (Step ρ)) :
    s.world.orders <+: (steps.foldl (fun s step => (s.step step).1) s).world.orders := by
  induction steps generalizing s with
  | nil => exact List.prefix_rfl
  | cons step rest ih => exact (s.prefix_step step).trans (ih _)

theorem Operation.under (o : Operation String ρ) : o.Under o.options where
  same := rfl
  shows _ _ h := showsUnder_of_toStatement h
  creates path state s h := by
    have hc := statements_of_submit h
    rw [createStatements_eq] at hc
    cases hall : (Creator.createAll o.creators state).1 with
    | error error => simp [hall, Except.map] at hc
    | ok created =>
      simp only [hall, Except.map, Except.ok.injEq] at hc
      exact ⟨created, rfl, Statement.forall₂_overlaid_iff.mpr hc.symm⟩
  sends path state s h env moves i statement hs :=
    ((Course.Logged.start env s).run moves).getElem?_of_sent hs
  executes scene path name s h := by
    refine ⟨o.options.taskExecutor, o.options.runsOn_taskExecutor, fun steps => ?_⟩
    have hl := scene.orders_launch o path name
    simp only [h, terms_of_submit h] at hl
    have hlast : (scene.launch o path name).1.world.orders[scene.world.flows.length]? =
        some ⟨o.options.taskExecutor, ⟨o.translator, path, o.options.handler⟩, s.statements⟩ := by
      rw [hl, List.getElem?_append_right (by simp [Simulation.World.orders])]
      simp [Simulation.World.orders]
    obtain ⟨more, hmore⟩ := Scene.orders_foldl_step (scene.launch o path name).1 steps
    rw [← hmore]
    exact (List.getElem?_append_left (List.getElem?_eq_some_iff.mp hlast).1).trans hlast
  reports path state := by
    refine ⟨o.reportsTo_submit path state, fun s signals h => ?_⟩
    have hh : s.execution.notifier.handler = o.options.handler :=
      congrArg Terms.handler (terms_of_submit h)
    exact hh ▸ Execution.ReportsTo.run s.execution signals

namespace Simulation

def Modification.change? : Modification ρ → Option Change
  | .change c => some c
  | .wrap _ => none

def Modification.layer? : Modification ρ → Option (Layer ρ)
  | .change _ => none
  | .wrap layer => some layer

/-- Changes and wraps do not meet. -/
theorem Scene.foldl_modify (o : Operation String ρ) (ms : List (Modification ρ)) :
    ms.foldl Scene.modify o =
      { o with
        options := (ms.filterMap Modification.change?).foldl Options.change o.options
        layers := o.layers ++ ms.filterMap Modification.layer? } := by
  induction ms generalizing o with
  | nil => simp
  | cons m rest ih =>
    rw [List.foldl_cons, ih]
    cases m with
    | change c => rfl
    | wrap layer =>
      have hl : (.wrap layer :: rest).filterMap Modification.layer? =
          layer :: rest.filterMap Modification.layer? := rfl
      rw [hl, List.append_cons]
      rfl

end Simulation

/-- `c` is the operation `o` after all modifications, in order. -/
structure Operation.Configured (o : Operation String ρ) (ms : List (Modification ρ))
    (c : Operation String ρ) : Prop where
  built : c.options = ((ms.filterMap Modification.change?).foldl Options.Builder.change
    o.options.toBuilder).build
  lastWins : ∀ final : Options,
    Options.LastWins o.options (ms.filterMap Modification.change?) final ↔ final = c.options
  /-- It does not matter where the layers stand among the changes. -/
  placement : ∀ others : List (Modification ρ),
    others.filterMap Modification.change? = ms.filterMap Modification.change? →
      others.filterMap Modification.layer? = ms.filterMap Modification.layer? →
        others.foldl Scene.modify o = c
  /-- Inside of the last transform is what there would be without it, later changes included. -/
  delegate : ∀ before processor after, ms = before ++ .wrap (.transform processor) :: after →
    after.filterMap Modification.layer? = [] →
      c.delegate? = some ((before ++ after).foldl Scene.modify o)
  layers : ∀ d, c.DelegatesTo d → d.Under c.options ∧ ∀ state,
    d.createStatements state = c.createStatements state ∧ d.toStatement state = c.toStatement state

/-- The options that an operation comes to are those of a builder that is given the same changes,
whatever the operation is wrapped in meanwhile; and they hold for each of its layers. -/
theorem Operation.configured (o : Operation String ρ) (ms : List (Modification ρ)) :
    o.Configured ms (ms.foldl Scene.modify o) where
  built := by
    rw [Scene.foldl_modify, Options.Builder.build_foldl_change]
    rfl
  lastWins final := by
    rw [Scene.foldl_modify]
    exact Options.lastWins_iff
  placement others hchanges hlayers := by
    rw [Scene.foldl_modify, Scene.foldl_modify, hchanges, hlayers]
  delegate before processor after h hafter := by
    subst h
    rw [Scene.foldl_modify, Scene.foldl_modify]
    simp only [List.filterMap_append, List.filterMap_cons, Modification.change?,
      Modification.layer?, hafter, delegate?, ← List.append_assoc, List.getLast?_concat,
      List.dropLast_concat, List.append_nil]
  layers d h := by
    generalize ms.foldl Scene.modify o = c at h ⊢
    have hoptions : d.options = c.options := by rw [h.eq]
    refine ⟨hoptions ▸ d.under, fun state => ?_⟩
    rw [h.eq]
    exact ⟨rfl, rfl⟩

/-! A batch that is given an executor before it is transformed, and a handler after that. -/

def Simulation.Modification.dressing : List (Modification Nat) :=
  [.change (.set (.executor (.logged "workers" .runs))), .wrap (.transform .keeping),
    .change (.set (.handler ⟨"log"⟩)), .change (.set (.timestamp 3))]

/-- The batch inside of the transform has the executor and the handler as well. The processor, which
comes when both replies are there, goes to that executor. -/
theorem Operation.configured_readers :
    ∃ d, (Modification.dressing.foldl Scene.modify readers).delegate? = some d ∧
      d.options =
        { timestamp := some 3, executor := some (.logged "workers" .runs)
          handler := some ⟨"log"⟩ } ∧
      (∀ steps : List (Step Nat),
        (steps.foldl (fun scene step => (scene.step step).1)
            (Scene.reading.launch d .caller "").1).world.orders[0]? =
          some ⟨.logged "workers" .runs, ⟨.standard, .caller, some ⟨"log"⟩⟩,
            [.unprepared ⟨"xa", { timestamp := some 3 }⟩ [.int 7],
              .unprepared ⟨"xab", { tracing := true, timestamp := some 3 }⟩ [.int 7]]⟩) ∧
      (Scene.reading.execute (Modification.dressing.foldl Scene.modify readers)).1.world.events.drop
        4 = [.executor "workers", .transform "keep"] := by
  have h := readers.configured Modification.dressing
  have hd := h.delegate [.change (.set (.executor (.logged "workers" .runs)))] .keeping
    [.change (.set (.handler ⟨"log"⟩)), .change (.set (.timestamp 3))] rfl rfl
  refine ⟨_, hd, rfl, ?_, rfl⟩
  obtain ⟨hunder, -⟩ := h.layers _ (.inside hd (.refl _))
  obtain ⟨executor, hruns, horders⟩ := hunder.executes Scene.reading .caller "" _ rfl
  cases hruns with
  | set hset =>
    cases hset
    exact horders
  | unset hunset => cases hunset

end CqlOperations
