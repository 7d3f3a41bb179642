import CqlOperations.Simulation.Build

/-! Running scripts step by step. -/
namespace CqlOperations.Simulation

namespace Scene

variable {ρ : Type}

def step (s : Scene ρ) : Step ρ → Scene ρ × Answer ρ
  | .make id blueprint modifications => s.make id blueprint modifications
  | .execute id => s.withOperation id execute
  | .executeText text =>
    s.execute (s.template.execute s.defaults (.constant (Statement.ofText text)))
  | .executeWithin id limit => s.withOperation id fun s operation =>
    s.executeDetached operation (some limit)
  | .toStatement id => s.withOperation id fun s operation =>
    match operation.toStatement s.state with
    | (.ok statement, state) => ({ s with state }, .statement statement)
    | (.error error, state) => ({ s with state }, .error error)
  | .options id => s.withOperation id fun s operation =>
    (s, .options operation.options (operation.delegate?.map Operation.options))
  | .submit id name => s.withOperation id fun s operation =>
    match s.submit operation with
    | (s, .error error) => (s, .error error)
    | (s, .ok handle) => (s.setHandle name (.pending handle), s.pendingAnswer handle false)
  | .start id name => s.withOperation id fun s operation => s.start operation name
  | .callback id name => s.withOperation id fun s operation => s.callback operation name
  | .isFinished name => s.withPending name fun s handle => (s, s.pendingAnswer handle true)
  | .join name =>
    match s.handles.lookup name with
    | some (.started flow) =>
      let s := s.mapWorld (·.modifyFlow flow fun flow => { flow with mode := .running })
      (s.removeHandle name).drive flow
    | _ => s.withPending name fun s handle => s.join name handle none
  | .joinWithin name limit => s.withPending name fun s handle => s.join name handle (some limit)
  | .onComplete name executor => s.withPending name fun s handle =>
    let s := s.removeHandle name
    (if s.world.down then s else s.mapWorld (·.enqueue (.watch ⟨name, handle, executor⟩)), .done)
  | .block name => s.block name none true
  | .blockWithin name limit => s.block name (some limit) false
  | .drop name => (s.dropHandle name, .held (s.handles.lookup name).isSome)
  | .advance milliseconds => s.sleep milliseconds
  | .release key => (s.mapWorld (·.release key), .done)
  | .runKept =>
    let tasks := s.world.kept
    match { s.world with kept := [] }.runKept tasks with
    | (world, none) => ({ s with world }, .tasks tasks.length)
    | (world, some message) => ({ s with world }, .panicked message)
  | .dropKept =>
    let tasks := s.world.kept
    (s.mapWorld fun w => tasks.foldl World.dropTask { w with kept := [] }, .tasks tasks.length)
  | .setState text => ({ s with state := text }, .done)
  | .setDefaults settings =>
    let options := Options.ofSettings settings
    ({ s with defaults := s.template.clone.setDefaults options s.defaults }, .options options none)
  | .describeTemplate => (s, .text (s.template.describe s.defaults))
  | .translate error => (s, .error (s.template.translator.translate error))
  | .shutDown => (s.mapWorld World.shutDown, .done)

end Scene

/-- A step's answer, the events up to the next step, and the time then. -/
structure StepOutcome (ρ : Type) where
  answer : Answer ρ
  events : List (Event ρ)
  now : Nat

/-- Takes steps in order. After each one everything runs that can run without time passing. -/
def Scene.play {ρ : Type} (s : Scene ρ) : List (Step ρ) → List (StepOutcome ρ)
  | [] => []
  | step :: rest =>
    let (s, answer) := s.step step
    let s := if s.world.down then s else s.mapWorld World.settle
    let events := s.world.events
    ⟨answer, events, s.world.now⟩ ::
      play (s.mapWorld fun w => { w with events := [] }) rest

end CqlOperations.Simulation
