import CqlOperations.Execution

/-! How simulated backends treat requests. -/
namespace CqlOperations.Simulation

/-- A request sleeps for a time if there is one, even for none at all, then waits for a permit if it
is gated, and ends as it has to. -/
structure Stub (ρ : Type) where
  delay : Option Nat := none
  gated : Bool := false
  ending : Resolution ρ

/-- The treatment of a statement that comes after so many others of its key. -/
abbrev Treatment (ρ : Type) := Statement → Nat → Stub ρ

end CqlOperations.Simulation
