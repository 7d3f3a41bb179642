import CqlOperations.Datum.Output

/-! Processors that a scenario may name. -/
namespace CqlOperations.Scenario

inductive Transformation where
  | fail (message : String)
  | raise (error : OperationError)
  | panic (message : String)
  | append (suffix : String)
  | get (position : Nat)
  | length
  | values
  | allOrError
  | count
  | text
  | describe
  | keep

namespace Transformation

/-- How many slots of a batch succeeded, failed and are absent. -/
def countSlots (b : BatchResult String) : Datum :=
  .list
    [.ofNat (b.slots.countP Slot.isOk), .ofNat (b.slots.countP Slot.isFailed),
      .ofNat (b.slots.countP fun slot => !slot.isOk && !slot.isFailed)]

/-- What a transformation makes of an output. Outputs of a kind that it is not for stay the same. -/
def apply : Transformation → Output String → Outcome (Result String)
  | fail message, _ => .returned (.error (.processing (.custom message)))
  | raise error, _ => .returned (.error error)
  | panic message, _ => .panicked message
  | append suffix, .reply value => .returned (.ok (.reply (value ++ suffix)))
  | length, .reply value => .returned (.ok (.made (.ofNat value.utf8ByteSize)))
  | length, .batch b => .returned (.ok (.made (.ofNat b.size)))
  | get position, .batch b =>
    .returned (.ok (.made (.ofOption ((b.get? position).map (Slot.toDatum .text)))))
  | values, .batch b =>
    .returned (.ok (.made (.list (b.values.map fun v => .ofOption (v.map .text)))))
  | allOrError, .batch b =>
    .returned (b.toExcept.map fun replies => .made (.list (replies.map .text)))
  | count, .batch b => .returned (.ok (.made (countSlots b)))
  | text, .batch b =>
    .returned (.ok (.made (.text (Text.maskTaskNumbers (b.describe Text.quoted)))))
  | describe, output => .returned (.ok (.made (output.toDatum .text)))
  | _, output => .returned (.ok output)

def processor (t : Transformation) (label : String) : Processor String :=
  ⟨label, t.apply⟩

end Transformation
end CqlOperations.Scenario
