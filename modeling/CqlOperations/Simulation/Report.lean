import CqlOperations.Datum.Output
import CqlOperations.Simulation.Script

/-! Answers of steps as data. -/
namespace CqlOperations.Simulation

namespace Answer

variable {ρ : Type}

private def ok (d : Datum) : Datum :=
  .record [("ok", d)]

private def refused (name : String) : Datum :=
  .record [("error", .text name)]

def toDatum (reply : ρ → Datum) : Answer ρ → Datum
  | result r => Result.toDatum reply r
  | statement s => ok s.toDatum
  | made size initial =>
    ok (.record
      [("batch", .ofOption (size.map fun n =>
          .record [("len", .ofNat n), ("empty", .flag (n = 0))])),
        ("options", initial.toDatum)])
  | options o none => ok o.toDatum
  | options o (some delegate) =>
    match o.toDatum with
    | .record fields => ok (.record (fields ++ [("delegate", delegate.toDatum)]))
    | other => ok other
  | pending finished shown =>
    ok (.record (finished.toList.map (fun b => ("finished", .flag b)) ++ [("debug", .text shown)]))
  | started ended => .list [.flag ended]
  | held b => ok (.flag b)
  | tasks n => ok (.ofNat n)
  | text s => ok (.text s)
  | error e => e.toDatum
  | done => ok .null
  | panicked message => .record [("error", .text "Panic"), ("message", .text message)]
  | stuck => refused "Stuck"
  | wouldBlock => refused "WouldBlock"
  | noHandle => refused "NoHandle"
  | noOperation => refused "NoOp"

end Answer

end CqlOperations.Simulation
