import CqlOperations.Proofs.Callback
import CqlOperations.Proofs.FailureHandler
import CqlOperations.Proofs.Paths
import CqlOperations.Proofs.Simulation.Scene

/-! Laws of stacks in a world that is otherwise quiet: what it logs of one execution is what the
account of that says, once no task is left to run. -/
namespace CqlOperations

variable {ρ : Type}

def Trace.report? : Trace ρ → Option Report
  | .reported r => some r
  | _ => none

def Trace.delivery? : Trace ρ → Option (Output ρ)
  | .delivered output => some output
  | _ => none

namespace Simulation

/-- The calls of failure handlers that a world logged. -/
def World.reports (w : World ρ) : List Report :=
  (w.events.filterMap Event.trace?).filterMap Trace.report?

/-- What callbacks were called with. -/
def World.deliveries (w : World ρ) : List (Output ρ) :=
  (w.events.filterMap Event.trace?).filterMap Trace.delivery?

namespace World.Tracks

variable {a : Allowance ρ} {w : World ρ} {cs : List (Course ρ)}

/-- Courses keep no task that their world has not. -/
theorem kept_eq_nil (h : w.Tracks a [] [] cs) (hw : w.tasks = []) {c : Course ρ} (hc : c ∈ cs) :
    c.kept = [] := by
  have ht := h.tasks
  rw [hw] at ht
  obtain ⟨id, hid, rfl⟩ := List.getElem_of_mem hc
  refine List.eq_nil_iff_forall_not_mem.mpr fun task htask => ?_
  have hmem : task.owed id ∈ Course.collect Course.owed 0 cs :=
    Course.mem_collect_of_mem (List.getElem?_eq_getElem hid)
      (by rw [Nat.zero_add]; exact List.mem_map_of_mem htask)
  rw [ht.nil_eq.symm] at hmem
  cases hmem

private theorem traces_perm (h : w.Tracks a [] [] cs) :
    (w.events.filterMap Event.trace?).Perm (cs.flatMap fun c => c.ran.filterMap Action.trace?) := by
  have ht := h.traces
  rwa [List.nil_append, Course.collect_traces] at ht

theorem reports_perm (h : w.Tracks a [] [] cs) : w.reports.Perm (cs.flatMap Course.reports) := by
  have he : (cs.flatMap fun c => c.ran.filterMap Action.trace?).filterMap Trace.report? =
      cs.flatMap Course.reports := by
    rw [List.filterMap_flatMap]
    refine List.flatMap_congr fun c _ => ?_
    rw [List.filterMap_filterMap]
    exact List.filterMap_congr fun task _ => by cases task <;> rfl
  rw [← he]
  exact h.traces_perm.filterMap _

theorem deliveries_perm (h : w.Tracks a [] [] cs) :
    w.deliveries.Perm (cs.flatMap Course.deliveries) := by
  have he : (cs.flatMap fun c => c.ran.filterMap Action.trace?).filterMap Trace.delivery? =
      cs.flatMap Course.deliveries := by
    rw [List.filterMap_flatMap]
    refine List.flatMap_congr fun c _ => ?_
    rw [List.filterMap_filterMap]
    exact List.filterMap_congr fun task _ => by cases task <;> rfl
  rw [← he]
  exact h.traces_perm.filterMap _

end World.Tracks

end Simulation

namespace Operation.IsStack

open Simulation

variable {σ : Type} {a : Allowance ρ} {handler : Handler}

/-- An execution alone in its world. Once it has a result and no task is left, the account of its
operation is complete, in what the environment came to be. -/
theorem completes_alone {o : Operation σ ρ} (h : o.IsStack) (hdrops : ¬ a.does .drops)
    {path : Path} {state : σ} {s : Submission ρ} (hs : (o.submit path state).1 = .ok s)
    {w : World ρ} (hw : w.GoesOn a [] [] [Course.start s]) {r : Result ρ}
    (hr : w.joined? 0 = some r) (ht : w.tasks = []) :
    ∃ (env : Environment ρ) (c : Course ρ), env.Within a s.statements ∧ env.RunsAll ∧
      c.execution.result? = some r ∧ w.reports.Perm c.reports ∧ w.deliveries.Perm c.deliveries ∧
      ∀ gathered, o.base.gathered? o.translator env.outcome s.statements.length = some gathered →
        c.Completes (.ofGathered env.discipline path o.options.handler o.processors gathered) := by
  obtain ⟨c, hreach, htracks⟩ := hw.alone
  have hx : c.execution.result? = some r := by rw [← hr, htracks.joined?_eq rfl]
  obtain ⟨f, -, hflow⟩ := htracks.flow (show [c][0]? = some c from rfl)
  obtain ⟨base, hbase, -⟩ := htracks.exists_within hflow
  have hstatements : c.statements = s.statements := Course.Reaches.statements hreach
  obtain ⟨env, moves, hwithin, rfl⟩ := hreach.exists_run hbase
  rw [hstatements] at hwithin
  have hruns : env.RunsAll := fun i hi => hdrops (hi ▸ hwithin.does i)
  have hreports := htracks.reports_perm
  have hdeliveries := htracks.deliveries_perm
  rw [List.flatMap_singleton] at hreports hdeliveries
  refine ⟨env, _, hwithin, hruns, hx, hreports, hdeliveries, fun gathered hg => ?_⟩
  have htrack := h.onTrack hs hg moves
  have htally := (Course.Tallied.start s).run hruns moves
  have hkept := htracks.kept_eq_nil ht List.mem_cons_self
  have hcompletes := htrack.completes_of_result? hx hkept hruns htally
  obtain ⟨statements, -, rfl⟩ := h.submit_ok hs
  exact hcompletes

variable {o : Operation String ρ} {sub : Submission ρ} {scene : Scene ρ} {after : String}

/-- A program that executes an operation, with nothing else going on, is told what the law of the
failure handler says, and so is the handler. -/
theorem execute_alone (h : o.IsStack) (hh : o.options.handler = some handler)
    (hp : ∀ p ∈ o.processors, p.Returns) (hdrops : ¬ a.does .drops)
    (hends : ∀ statement r, a.ends statement r →
      (∃ reply, r = .answered reply) ∨ ∃ failure, r = .failed failure)
    (ht : scene.world.Tracks a [] [] [])
    (hs : o.submit .caller scene.state = (.ok sub, [], after))
    (hd : a.does o.options.taskExecutor.discipline) {r : Result ρ}
    (hr : (scene.execute o).2 = .result r) (hw : (scene.execute o).1.world.tasks = []) :
    ∃ (env : Environment ρ) (first : Result ρ) (c : Course ρ), env.Within a sub.statements ∧
      o.base.gathered? o.translator env.outcome sub.statements.length = some (.returned first) ∧
      HandlerLaw sub handler o.processors first c ∧ c.execution.stage = .ended r ∧
      (scene.execute o).1.world.reports.Perm c.reports := by
  have hsub : (o.submit .caller scene.state).1 = .ok sub := by rw [hs]
  obtain ⟨cs, c, hf, hreach, htracks, htells⟩ := Scene.execute_tracks ht hs hd
  obtain rfl : cs = [] := List.eq_nil_of_length_eq_zero hf.length
  rw [List.nil_append] at htracks
  rw [hr] at htells
  have hx : c.execution.stage = .ended r := htells
  have hjoined : (scene.execute o).1.world.joined? 0 = some r := by
    rw [htracks.joined?_eq rfl, Execution.result?, hx]
  have hgoes : (scene.execute o).1.world.GoesOn a [] [] [Course.start sub] :=
    ⟨[c], Follow.set (show [Course.start sub][0]? = some _ from rfl) hreach, htracks⟩
  obtain ⟨env, d, hwithin, hruns, hresult, hreports, -, hall⟩ :=
    h.completes_alone hdrops hsub hgoes hjoined hw
  have ha : Answers env.outcome := by
    intro i
    obtain ⟨statement, he⟩ := hwithin.exists_ends i
    exact hends statement _ he
  obtain ⟨first, hg⟩ := h.gathered?_of_answers ha sub.statements.length
  have hc := hall _ hg
  rw [hh] at hc
  refine ⟨env, first, d, hwithin, hg, h.handlerLaw_of_completes hp hruns hsub hg hc, ?_, hreports⟩
  obtain ⟨verdict, calls, -, hv⟩ := Account.exists_verdict hp (some handler) first
  obtain ⟨he, -⟩ := hv env.discipline .caller hruns
  have hstage := hc.stage
  rw [he] at hstage
  rw [Execution.result?, hstage] at hresult
  cases hresult
  exact hstage

/-- The same with a callback, in any world that comes of it. -/
theorem callback_alone (h : o.IsStack) (hh : o.options.handler = some handler)
    (hdrops : ¬ a.does .drops) (hends : ∀ statement, ¬ a.ends statement .cancelled)
    (hs : (o.submit .callback scene.state).1 = .ok sub) {w : World ρ}
    (hw : w.GoesOn a [] [] [Course.start sub]) {r : Result ρ} (hr : w.joined? 0 = some r)
    (ht : w.tasks = []) :
    ∃ env : Environment ρ, env.Within a sub.statements ∧
      ((∀ message, ¬ o.Unwinds env sub.statements.length message) →
        (∃ output, r = .ok output ∧ w.deliveries = [output]) ∨
          ∃ error, r = .error error ∧ w.deliveries = [] ∧ w.reports = [⟨handler, error⟩]) ∧
      ∀ message, o.Unwinds env sub.statements.length message →
        r = .error (.panicked message) ∧ w.deliveries = [] ∧ w.reports = [] := by
  obtain ⟨env, c, hwithin, hruns, hresult, hreports, hdeliveries, hall⟩ :=
    h.completes_alone hdrops hs hw hr ht
  have hn : ∀ i, env.outcome i ≠ .cancelled := by
    intro i hi
    obtain ⟨statement, he⟩ := hwithin.exists_ends i
    exact hends statement (hi ▸ he)
  obtain ⟨gathered, hg⟩ := h.gathered?_of_not_cancelled hn sub.statements.length
  have hc := hall _ hg
  rw [hh] at hc
  refine ⟨env, hwithin, fun hu => ?_, fun message hu => ?_⟩
  · rcases told_of_completes hruns hg hc hu with
      ⟨output, hx, hdel⟩ | ⟨error, hx, hdel, hrep⟩
    · rw [Execution.result?, hx] at hresult
      cases hresult
      rw [hdel] at hdeliveries
      exact .inl ⟨output, rfl, List.perm_singleton.mp hdeliveries⟩
    · rw [Execution.result?, hx] at hresult
      cases hresult
      rw [hdel] at hdeliveries
      rw [hrep] at hreports
      exact .inr ⟨error, rfl, hdeliveries.eq_nil, List.perm_singleton.mp hreports⟩
  · obtain ⟨hx, hdel, hrep⟩ := lost_of_completes hruns hg hc hu
    rw [hx] at hresult
    cases hresult
    rw [hdel] at hdeliveries
    rw [hrep] at hreports
    exact ⟨rfl, hdeliveries.eq_nil, hreports.eq_nil⟩

end Operation.IsStack
end CqlOperations
