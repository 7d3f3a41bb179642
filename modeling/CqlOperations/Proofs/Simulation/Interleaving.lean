import CqlOperations.Proofs.Overlay
import CqlOperations.Proofs.Preview
import CqlOperations.Proofs.Reports
import CqlOperations.Proofs.Simulation.Laws
import CqlOperations.Proofs.Simulation.Receipts

/-! Executions of one operation side by side: begun at any time on any path, with their requests and
tasks in any order, while the state that the creators read changes. Each of them creates its own
statements, and is what it would be if it were alone. -/
namespace CqlOperations

variable {σ ρ : Type}

/-- An execution that began, with what its creators read and what they left. -/
structure Start (σ ρ : Type) where
  path : Path
  before : σ
  submission : Submission ρ
  after : σ

/-- Nothing begins without its statements. -/
def Operation.start? (o : Operation σ ρ) (path : Path) (state : σ) : Option (Start σ ρ) :=
  match o.submit path state with
  | (.ok submission, _, after) => some ⟨path, state, submission, after⟩
  | (.error _, _, _) => none

/-- All statements come of calls at the start: one call of each creator, in order. -/
structure Start.Fresh (o : Operation σ ρ) (st : Start σ ρ) : Prop where
  created : ∃ created, Creator.createAll o.creators st.before = (.ok created, st.after) ∧
    List.Forall₂ (fun c t => c.Overlaid o.options t) created st.submission.statements
  calls : ∀ calls, o.noted.submit st.path (st.before, calls) =
    (.ok st.submission, [], st.after, calls ++ List.range o.creators.length)

namespace Operation

variable {o : Operation σ ρ} {path : Path} {state : σ}

theorem start?_eq_some_iff {st : Start σ ρ} :
    o.start? path state = some st ↔
      st.path = path ∧ st.before = state ∧
        (o.submit path state).1 = .ok st.submission ∧ (o.submit path state).2.2 = st.after := by
  unfold start?
  obtain ⟨spath, before, submission, after⟩ := st
  cases hs : o.submit path state with
  | mk submitted rest =>
    cases submitted with
    | error error => simp
    | ok sub =>
      simp only [Option.some.injEq, Start.mk.injEq, Except.ok.injEq]
      constructor
      · rintro ⟨rfl, rfl, rfl, rfl⟩
        exact ⟨rfl, rfl, rfl, rfl⟩
      · rintro ⟨rfl, rfl, rfl, rfl⟩
        exact ⟨rfl, rfl, rfl, rfl⟩

/-- Taking down the calls of creators changes nothing that is submitted. -/
theorem submission_noted (o : Operation σ ρ) (path : Path) (statements : List Statement) :
    o.noted.submission path statements = o.submission path statements := by
  unfold submission gathering noted
  cases o.base <;> rfl

namespace IsStack

theorem fresh (h : o.IsStack) {st : Start σ ρ} (hst : o.start? path state = some st) :
    st.Fresh o := by
  obtain ⟨rfl, rfl, hs, ha⟩ := start?_eq_some_iff.mp hst
  have heq := h.submit_eq st.path st.before
  cases hc : o.createStatements st.before with
  | mk created after =>
    cases created with
    | error error =>
      rw [heq, hc] at hs
      cases hs
    | ok statements =>
      rw [heq, hc] at hs ha
      cases ha
      have hsub : o.submission st.path statements = st.submission := Except.ok.inj hs
      have hstatements : st.submission.statements = statements := hsub ▸ rfl
      obtain ⟨created, hcreated, hmade⟩ := createStatements_eq_ok_iff.mp hc
      refine ⟨⟨created, hcreated, ?_⟩, fun calls => ?_⟩
      · rw [hstatements]
        exact Statement.forall₂_overlaid_iff.mpr hmade
      · simp only [h.noted.submit_eq, createStatements_noted hc, submission_noted, hsub]

/-- An execution begins, or there is nothing but a creation error. -/
theorem begins_or_refuses (h : o.IsStack) (path : Path) (state : σ) :
    (∃ sub after, o.submit path state = (.ok sub, [], after) ∧
        o.start? path state = some ⟨path, state, sub, after⟩) ∨
      ∃ error after, o.Refuses state error after ∧ o.start? path state = none := by
  have heq := h.submit_eq path state
  cases hc : o.createStatements state with
  | mk created after =>
    rw [hc] at heq
    cases created with
    | ok statements =>
      refine .inl ⟨_, after, heq, ?_⟩
      unfold start?
      rw [heq]
    | error error =>
      obtain ⟨position, hf⟩ :=
        Creator.createAll_eq_error_iff.mp (createStatements_eq_error_iff.mp hc)
      refine .inr ⟨error, after, h.refuses hf, ?_⟩
      unfold start?
      rw [heq]

end IsStack
end Operation

namespace Simulation

/-- What happens next in a program that uses one operation. An execution is begun by one of the calls
for it, or it is only launched, and then left to the runtime, polled or dropped. Jobs and tasks need
not run in the order they became ready. -/
inductive Turn where
  | execute
  | executeWithin (limit : Duration)
  | submit
  | callback (name : String)
  | launch (path : Path) (name : String)
  | leave (id : Nat)
  | poll (id : Nat)
  | drop (id : Nat)
  | job (index : Nat)
  | task (index : Nat)
  | fire (due : Nat)
  | release (key : String)
  | setState (text : String)

namespace Turn

/-- The path of the execution that begins. -/
def path? : Turn → Option Path
  | execute => some .caller
  | executeWithin _ => some .caller
  | submit => some .caller
  | callback _ => some .callback
  | launch path _ => some path
  | _ => none

/-- The execution that begins, if the creators read `state`. -/
def start? (o : Operation String ρ) (state : String) (turn : Turn) : Option (Start String ρ) :=
  turn.path?.bind fun path => o.start? path state

/-- What creators read from then on. -/
def state (o : Operation String ρ) (state : String) (turn : Turn) : String :=
  match turn with
  | setState text => text
  | turn =>
    match turn.path? with
    | some path => (o.submit path state).2.2
    | none => state

/-- The executions that begin, in order. They follow from what the creators do with the state. -/
def starts (o : Operation String ρ) : String → List Turn → List (Start String ρ)
  | _, [] => []
  | state, turn :: rest => (turn.start? o state).toList ++ starts o (turn.state o state) rest

end Turn

/-- Runs the job at this place of the queue. -/
def World.runJobAt (w : World ρ) (index : Nat) : World ρ :=
  match w.queue[index]? with
  | some job => { w with queue := w.queue.eraseIdx index }.runJob job
  | none => w

/-- Runs one of the tasks that an executor keeps. -/
def World.runKeptAt (w : World ρ) (index : Nat) : World ρ :=
  match w.kept[index]? with
  | some task => ({ w with kept := w.kept.eraseIdx index }.runTask task).1
  | none => w

namespace World

variable {a : Allowance ρ} {w : World ρ} {cs : List (Course ρ)}

theorem Tracks.runJobAt (h : Tracks a w [] [] cs) (index : Nat) :
    (w.runJobAt index).GoesOn a [] [] cs := by
  unfold World.runJobAt
  split
  next job hj =>
    refine (h.pick hj).runJob fun id position heq => ?_
    exact h.requests id position (List.mem_append_left _ (heq ▸ List.mem_of_getElem? hj))
  next => exact h.goesOn

theorem Tracks.runKeptAt (h : Tracks a w [] [] cs) (index : Nat) :
    (w.runKeptAt index).GoesOn a [] [] cs := by
  unfold World.runKeptAt
  split
  next task hk => exact (h.pickKept hk).runTaken
  next => exact h.goesOn

theorem Balanced.runJobAt (h : w.Balanced) (index : Nat) : (w.runJobAt index).Balanced := by
  unfold World.runJobAt
  split
  next job _ =>
    have hrest : ({ w with queue := w.queue.eraseIdx index } : World ρ).Balanced := h
    exact hrest.runJob job
  next => exact h

theorem Balanced.runKeptAt (h : w.Balanced) (index : Nat) : (w.runKeptAt index).Balanced := by
  unfold World.runKeptAt
  split
  next task _ =>
    have hrest : ({ w with kept := w.kept.eraseIdx index } : World ρ).Balanced := h
    exact hrest.of_mail (mail_runTask _ task)
  next => exact h

end World

namespace Scene

def turn (o : Operation String ρ) (s : Scene ρ) : Turn → Scene ρ
  | .execute => (s.execute o).1
  | .executeWithin limit => (s.executeDetached o (some limit)).1
  | .submit => (s.submit o).1
  | .callback name => (s.callback o name).1
  | .launch path name => (s.launch o path name).1
  | .leave id => s.spawn id
  | .poll id => s.mapWorld (·.pollFlow id)
  | .drop id => s.mapWorld (·.dropFlow id)
  | .job index => s.mapWorld (·.runJobAt index)
  | .task index => s.mapWorld (·.runKeptAt index)
  | .fire due => s.mapWorld (·.fireTimers due)
  | .release key => s.mapWorld (·.release key)
  | .setState text => { s with state := text }

def takeTurns (o : Operation String ρ) (s : Scene ρ) (turns : List Turn) : Scene ρ :=
  turns.foldl (turn o) s

/-! What a turn does to the state that creators read. -/

theorem state_launch (s : Scene ρ) (o : Operation String ρ) (path : Path) (name : String) :
    (s.launch o path name).1.state = (o.submit path s.state).2.2 := by
  unfold launch
  cases o.submit path s.state with
  | mk submitted rest => cases submitted <;> rfl

theorem state_spawn (s : Scene ρ) (id : Nat) : (s.spawn id).state = s.state := by
  unfold spawn
  split <;> rfl

theorem state_drive (s : Scene ρ) (id : Nat) : (s.drive id).1.state = s.state := by
  unfold drive
  dsimp only
  split <;> rfl

theorem state_awaitPending (s : Scene ρ) (handle : Pending Nat ρ) (limit : Option Duration) :
    (s.awaitPending handle limit).1.state = s.state := by
  obtain ⟨world, -, heq⟩ := s.awaitPending_eq handle limit
  rw [heq]

theorem state_submit (s : Scene ρ) (o : Operation String ρ) :
    (s.submit o).1.state = (o.submit .caller s.state).2.2 := by
  have hlaunched := s.state_launch o .caller ""
  unfold submit
  split
  next heq =>
    rw [heq] at hlaunched
    exact hlaunched
  next launched id heq =>
    rw [heq] at hlaunched
    split
    next => exact hlaunched
    next => exact (state_spawn launched id).trans hlaunched

theorem state_execute (s : Scene ρ) (o : Operation String ρ) :
    (s.execute o).1.state = (o.submit .caller s.state).2.2 := by
  have hlaunched := s.state_launch o .caller ""
  unfold execute
  split
  next heq =>
    rw [heq] at hlaunched
    exact hlaunched
  next launched id heq =>
    rw [heq] at hlaunched
    exact (state_drive launched id).trans hlaunched

theorem state_executeDetached (s : Scene ρ) (o : Operation String ρ) (limit : Option Duration) :
    (s.executeDetached o limit).1.state = (o.submit .caller s.state).2.2 := by
  have hsubmitted := s.state_submit o
  unfold executeDetached
  split
  next heq =>
    rw [heq] at hsubmitted
    exact hsubmitted
  next submitted handle heq =>
    rw [heq] at hsubmitted
    have hawaited : (submitted.awaitInContext handle limit).1.state = submitted.state := by
      unfold awaitInContext
      split
      next => rfl
      next => exact state_awaitPending submitted handle limit
    exact hawaited.trans hsubmitted

theorem state_callback (s : Scene ρ) (o : Operation String ρ) (name : String) :
    (s.callback o name).1.state = (o.submit .callback s.state).2.2 := by
  have hlaunched := s.state_launch o .callback name
  unfold callback
  split
  next heq =>
    rw [heq] at hlaunched
    exact hlaunched
  next launched id heq =>
    rw [heq] at hlaunched
    exact (state_spawn launched id).trans hlaunched

theorem state_turn (o : Operation String ρ) (s : Scene ρ) (turn : Turn) :
    (s.turn o turn).state = turn.state o s.state := by
  cases turn with
  | execute => exact s.state_execute o
  | executeWithin limit => exact s.state_executeDetached o (some limit)
  | submit => exact s.state_submit o
  | callback name => exact s.state_callback o name
  | launch path name => exact s.state_launch o path name
  | leave id => exact s.state_spawn id
  | poll id => rfl
  | drop id => rfl
  | job index => rfl
  | task index => rfl
  | fire due => rfl
  | release key => rfl
  | setState text => rfl

theorem state_takeTurns (o : Operation String ρ) (s : Scene ρ) (turns : List Turn) :
    (s.takeTurns o turns).state = turns.foldl (Turn.state o) s.state := by
  induction turns generalizing s with
  | nil => rfl
  | cons turn rest ih =>
    rw [List.foldl_cons, ← state_turn]
    exact ih (s.turn o turn)

/-- In a scene of these starts each execution follows the course of its submission, and the session
received what they sent. -/
structure Conducts (a : Allowance ρ) (starts : List (Start String ρ)) (s : Scene ρ) : Prop where
  goes : s.world.GoesOn a [] [] (starts.map fun st => Course.start st.submission)
  balanced : s.world.Balanced

/-- What the calls that begin an execution have in common. -/
structure Begins (a : Allowance ρ) (o : Operation String ρ) (path : Path) (s s' : Scene ρ) :
    Prop where
  refused : ∀ {error after}, o.Refuses s.state error after → s' = { s with state := after }
  begun : ∀ {cs sub after}, s.world.Tracks a [] [] cs →
    o.submit path s.state = (.ok sub, [], after) →
      ∃ cs' c, Follow a cs cs' ∧ (Course.start sub).Reaches a c ∧
        s'.world.Tracks a [] [] (cs' ++ [c])
  balanced : s.world.Balanced → s.world.down = false → s'.world.Balanced

variable {a : Allowance ρ} {o : Operation String ρ} {starts : List (Start String ρ)}
  {s s' : Scene ρ}

theorem begins_turn (hd : a.does o.options.taskExecutor.discipline) {turn : Turn} {path : Path}
    (hp : turn.path? = some path) : Begins a o path s (s.turn o turn) := by
  cases turn with
  | execute =>
    cases hp
    exact
      { refused := fun h => congrArg Prod.fst (refuses h).execute
        begun := fun ht hs => by
          obtain ⟨cs', c, hf, hr, ht', -⟩ := execute_tracks ht hs hd
          exact ⟨cs', c, hf, hr, ht'⟩
        balanced := fun hb hup => balanced_execute hb hup o }
  | executeWithin limit =>
    cases hp
    exact
      { refused := fun h => congrArg Prod.fst ((refuses h).executeDetached (some limit))
        begun := fun ht hs => by
          obtain ⟨cs', c, hf, hr, ht', -⟩ := executeDetached_tracks ht hs hd (some limit)
          exact ⟨cs', c, hf, hr, ht'⟩
        balanced := fun hb hup => balanced_executeDetached hb hup o (some limit) }
  | submit =>
    cases hp
    exact
      { refused := fun h => congrArg Prod.fst (refuses h).submit
        begun := fun ht hs => ⟨_, _, .refl _, .refl, (submit_tracks ht hs hd).2⟩
        balanced := fun hb hup => balanced_submit hb hup o }
  | callback name =>
    cases hp
    exact
      { refused := fun h => congrArg Prod.fst ((refuses h).callback name)
        begun := fun ht hs => ⟨_, _, .refl _, .refl, (callback_tracks ht hs hd name).2⟩
        balanced := fun hb hup => balanced_callback hb hup o name }
  | launch path name =>
    cases hp
    exact
      { refused := fun h => congrArg Prod.fst (launch_of_refuses h path name)
        begun := fun ht hs => ⟨_, _, .refl _, .refl, (launch_tracks ht hs hd name).2⟩
        balanced := fun hb hup => balanced_launch hb hup o path name }
  | _ => cases hp

/-- What all other turns have in common. -/
structure Continues (a : Allowance ρ) (s s' : Scene ρ) : Prop where
  goes : ∀ {cs}, s.world.Tracks a [] [] cs → s'.world.GoesOn a [] [] cs
  balanced : s.world.Balanced → s'.world.Balanced

theorem continues_turn {turn : Turn} (hp : turn.path? = none) :
    Continues a s (s.turn o turn) := by
  cases turn with
  | leave id => exact ⟨fun ht => (spawn_tracks ht id).goesOn, fun hb => balanced_spawn hb id⟩
  | poll id => exact ⟨fun ht => ht.pollFlow id, fun hb => hb.pollFlow id⟩
  | drop id =>
    exact ⟨fun ht => (ht.dropFlow id).goesOn, fun hb => hb.of_mail (World.mail_dropFlow _ id)⟩
  | job index => exact ⟨fun ht => ht.runJobAt index, fun hb => hb.runJobAt index⟩
  | task index => exact ⟨fun ht => ht.runKeptAt index, fun hb => hb.runKeptAt index⟩
  | fire due => exact ⟨fun ht => (ht.fireTimers due).goesOn, id⟩
  | release key =>
    exact ⟨fun ht => (ht.release key).goesOn, fun hb => hb.of_mail (World.mail_release _ key)⟩
  | setState text => exact ⟨fun ht => ht.goesOn, id⟩
  | _ => cases hp

namespace Conducts

theorem begins (h : o.IsStack) (hc : s.Conducts a starts) {path : Path}
    (hb : Begins a o path s s') : s'.Conducts a (starts ++ (o.start? path s.state).toList) := by
  rcases h.begins_or_refuses path s.state with
    ⟨sub, after, hs, hst⟩ | ⟨error, after, hrefuses, hst⟩
  · obtain ⟨cs, hf, ht⟩ := hc.goes
    obtain ⟨cs', c, hf', hreach, ht'⟩ := hb.begun ht hs
    rw [hst]
    refine ⟨⟨cs' ++ [c], ?_, ht'⟩, hb.balanced hc.balanced ht.up⟩
    rw [Option.toList_some, List.map_append, List.map_singleton]
    exact (hf.trans hf').snoc hreach
  · rw [hst, Option.toList_none, List.append_nil, hb.refused hrefuses]
    exact ⟨hc.goes, hc.balanced⟩

theorem continues (hc : s.Conducts a starts) (hn : Continues a s s') : s'.Conducts a starts :=
  ⟨hc.goes.bind fun _ ht => hn.goes ht, hn.balanced hc.balanced⟩

theorem turn (h : o.IsStack) (hd : a.does o.options.taskExecutor.discipline)
    (hc : s.Conducts a starts) (turn : Turn) :
    (s.turn o turn).Conducts a (starts ++ (turn.start? o s.state).toList) := by
  unfold Turn.start?
  cases hp : turn.path? with
  | some path => exact hc.begins h (begins_turn hd hp)
  | none =>
    rw [Option.bind_none, Option.toList_none, List.append_nil]
    exact hc.continues (continues_turn hp)

/-- Any number of turns. -/
theorem takeTurns (h : o.IsStack) (hd : a.does o.options.taskExecutor.discipline)
    (hc : s.Conducts a starts) (turns : List Turn) :
    (s.takeTurns o turns).Conducts a (starts ++ Turn.starts o s.state turns) := by
  induction turns generalizing s starts with
  | nil => exact (List.append_nil starts).symm ▸ hc
  | cons turn rest ih =>
    have hrest := ih (hc.turn h hd turn)
    rw [state_turn, List.append_assoc] at hrest
    exact hrest

end Conducts
end Scene

/-- What every execution has begun with. -/
theorem Turn.start?_of_mem_starts {o : Operation String ρ} {state : String} {turns : List Turn}
    {st : Start String ρ} (h : st ∈ starts o state turns) :
    o.start? st.path st.before = some st := by
  induction turns generalizing state with
  | nil => cases h
  | cons turn rest ih =>
    rcases List.mem_append.mp h with h | h
    · obtain ⟨path, -, hst⟩ := Option.bind_eq_some_iff.mp (Option.mem_toList.mp h)
      obtain ⟨hp, hb, -⟩ := Operation.start?_eq_some_iff.mp hst
      rwa [hp, hb]
    · exact ih h

/-- An execution takes a course of its own submission. Once it is over, it has sent all of its
statements, and its calls of the failure handler are those of any course of that submission in the
same environment. -/
structure Flow.Alone (a : Allowance ρ) (f : Flow ρ) (s : Submission ρ) (c : Course ρ) : Prop where
  execution : f.execution = c.execution
  statements : f.requests.map Request.statement = s.statements
  sent : f.sent.Sublist s.statements
  once : c.reports.length ≤ 1
  runs : ∃ env moves, env.Within a s.statements ∧ (Course.start s).run env moves = c ∧
    (c.IsOver → f.sent = s.statements ∧
      s.LeadsTo env fun other => other.reports = c.reports)

theorem Flow.Tracks.alone {o : Operation σ ρ} (h : o.IsStack) {a : Allowance ρ} {f : Flow ρ}
    {c : Course ρ} (ht : f.Tracks a c) {path : Path} {state : σ} {s : Submission ρ}
    (hs : (o.submit path state).1 = .ok s) (hreach : (Course.start s).Reaches a c)
    {base : Environment ρ} (hbase : base.Within a c.statements) : f.Alone a s c := by
  have hsame : c.statements = s.statements := Course.Reaches.statements hreach
  obtain ⟨env, moves, hwithin, rfl⟩ := hreach.exists_run hbase
  have hstatements : f.requests.map Request.statement = s.statements := ht.statements.trans hsame
  refine
    { execution := ht.execution
      statements := hstatements
      sent := hstatements ▸ f.sent_sublist
      once := h.length_reports_run_le hs env moves
      runs := ⟨env, moves, hsame ▸ hwithin, rfl, fun hover => ⟨?_, h.leadsTo_reports hs hover⟩⟩ }
  obtain ⟨hended, -⟩ := h.exists_gathered_of_isOver hs hover
  rw [← hstatements]
  refine Flow.sent_of_ended fun r hr => hended _ ?_
  rw [← ht.requests]
  exact List.mem_map_of_mem hr

/-- The executions of a world are those of the starts, and have nothing to do with each other: what
the session received and what the failure handler was called with is what they come to one by one. -/
structure World.Separates (a : Allowance ρ) (w : World ρ) (starts : List (Start String ρ))
    (courses : List (Course ρ)) : Prop where
  length : courses.length = starts.length
  flows : w.flows.length = starts.length
  alone : ∀ (id : Nat) (st : Start String ρ) (f : Flow ρ) (c : Course ρ),
    starts[id]? = some st → w.flows[id]? = some f → courses[id]? = some c →
      f.Alone a st.submission c
  receipts : w.receipts.Perm (w.flows.flatMap Flow.sent)
  reports : w.reports.Perm (courses.flatMap Course.reports)
  kept : w.tasks = [] → ∀ c ∈ courses, c.kept = []

theorem Scene.Conducts.separates {o : Operation String ρ} (h : o.IsStack) {a : Allowance ρ}
    {starts : List (Start String ρ)} {s : Scene ρ} (hc : s.Conducts a starts)
    (hst : ∀ st ∈ starts, o.start? st.path st.before = some st) :
    ∃ courses, s.world.Separates a starts courses := by
  obtain ⟨cs, hf, ht⟩ := hc.goes
  have hl : cs.length = starts.length := hf.length.trans (List.length_map _)
  refine ⟨cs,
    { length := hl
      flows := ht.length.symm.trans hl
      alone := ?_
      receipts := List.flatMap_def ▸ hc.balanced
      reports := ht.reports_perm
      kept := fun hw c hmem => ht.kept_eq_nil hw hmem }⟩
  intro id st f c hid hflow hcourse
  obtain ⟨d, hd, hreach⟩ := hf.reaches id (Course.start st.submission) (by
    rw [List.getElem?_map, hid, Option.map_some])
  rw [hcourse] at hd
  cases hd
  obtain ⟨-, -, hs, -⟩ := Operation.start?_eq_some_iff.mp (hst st (List.mem_of_getElem? hid))
  have hfollows := ht.flows id f c hflow hcourse
  obtain ⟨base, hbase, -⟩ := ht.exists_within hfollows
  exact hfollows.alone h hs hreach hbase

/-- Requests end as their statements are treated, and tasks are dealt with by the executor of the
operation. -/
def Setup.allowance (setup : Setup ρ) (o : Operation σ ρ) : Allowance ρ where
  ends statement r := ∃ n, (setup.treatment statement n).ending = r
  does d := ∃ executor, o.options.RunsOn executor ∧ executor.discipline = d

end Simulation

/-- However the executions of a stack come and go, each of them calls every creator once as it begins
and sends what these calls made. No creator is called at any other time, and no execution has a part
in what the failure handler is told of another. -/
theorem Operation.IsStack.interleaved {o : Operation String ρ} (h : o.IsStack)
    (setup : Simulation.Setup ρ) (turns : List Simulation.Turn) :
    (∀ st ∈ Simulation.Turn.starts o "" turns, st.Fresh o) ∧
      ((Simulation.Scene.setUp setup).takeTurns o turns).state =
        turns.foldl (Simulation.Turn.state o) "" ∧
      ∃ courses, ((Simulation.Scene.setUp setup).takeTurns o turns).world.Separates
        (setup.allowance o) (Simulation.Turn.starts o "" turns) courses := by
  have hst : ∀ st ∈ Simulation.Turn.starts o "" turns, o.start? st.path st.before = some st :=
    fun st hmem => Simulation.Turn.start?_of_mem_starts hmem
  have htracks : (Simulation.Scene.setUp setup).world.Tracks (setup.allowance o) [] [] [] :=
    Simulation.Scene.setUp_tracks setup fun _ n => ⟨n, rfl⟩
  have hsetUp : (Simulation.Scene.setUp setup).Conducts (setup.allowance o) [] :=
    ⟨htracks.goesOn, .refl _⟩
  have hdoes : (setup.allowance o).does o.options.taskExecutor.discipline :=
    ⟨_, o.options.runsOn_taskExecutor, rfl⟩
  exact ⟨fun st hmem => h.fresh (hst st hmem), Simulation.Scene.state_takeTurns o _ turns,
    (hsetUp.takeTurns h hdoes turns).separates h hst⟩

/-! Two executions of statements that read the state, on two paths, with their requests mixed up. A
request of the second one fails, which is no matter of the first. -/

def Operation.watched : Operation String Nat :=
  { readers with options := { handler := some ⟨"log"⟩ } }

theorem Operation.isStack_watched : watched.IsStack :=
  ⟨isStack_readers.sends, isStack_readers.transforms⟩

namespace Simulation

def Setup.rejecting (key : String) : Setup Nat where
  treatment statement _ :=
    { ending := if statement.key = key then .failed .emptyPlan else .answered 7 }
  prepare _ := .returned (.ok ())

def Turn.mixed : List Turn :=
  [.setState "x", .launch .caller "", .setState "y", .callback "done", .job 3, .job 0, .job 1,
    .job 1, .job 0, .job 0]

theorem interleaved_mixed :
    ∃ courses, ((Scene.setUp (.rejecting "ya")).takeTurns .watched Turn.mixed).world.Separates
        ((Setup.rejecting "ya").allowance .watched) (Turn.starts .watched "" Turn.mixed) courses ∧
      (Turn.starts .watched "" Turn.mixed).map (·.submission.statements.map Statement.key) =
        [["xa", "xab"], ["ya", "yab"]] ∧
      ((Scene.setUp (.rejecting "ya")).takeTurns .watched Turn.mixed).world.receipts.map
        Statement.key = ["yab", "xa", "ya", "xab"] ∧
      ((Scene.setUp (.rejecting "ya")).takeTurns .watched Turn.mixed).world.reports =
        [⟨⟨"log"⟩, Translator.standard.translateFailure .emptyPlan⟩] := by
  obtain ⟨-, -, courses, hseparates⟩ :=
    Operation.isStack_watched.interleaved (.rejecting "ya") Turn.mixed
  exact ⟨courses, hseparates, rfl, rfl, rfl⟩

end Simulation
end CqlOperations
