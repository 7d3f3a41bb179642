import CqlOperations.Simulation.Stub

/-! Scripted backends that answer each request with the key of its statement. -/
namespace CqlOperations.Scenario

open CqlOperations.Simulation

/-- What a script says about one request. A panic goes before a failure. -/
structure Behaviour where
  delay : Option Nat := none
  gated : Bool := false
  panic : Option String := none
  failure : Option Backend.Failure := none

/-- Behaviours by the key of the statement, one after another for each request of that key. The last
one serves for all further requests. -/
abbrev Script := List (String × List Behaviour)

def Script.behaviour (s : Script) (key : String) (earlier : Nat) : Behaviour :=
  match s.lookup key with
  | none => {}
  | some behaviours => behaviours[earlier]?.getD (behaviours.getLastD {})

def Behaviour.ending (b : Behaviour) (key : String) : Resolution String :=
  match b.panic, b.failure with
  | some message, _ => .panicked message
  | none, some failure => .failed failure
  | none, none => .answered key

def Script.treatment (s : Script) : Treatment String := fun statement earlier =>
  let behaviour := s.behaviour statement.key earlier
  { delay := behaviour.delay, gated := behaviour.gated, ending := behaviour.ending statement.key }

end CqlOperations.Scenario
