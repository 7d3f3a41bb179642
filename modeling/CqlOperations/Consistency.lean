/-! Consistency levels of requests. -/
namespace CqlOperations

inductive Consistency where
  | any
  | one
  | two
  | three
  | quorum
  | all
  | localQuorum
  | eachQuorum
  | localOne
  | serial
  | localSerial
deriving DecidableEq

namespace Consistency

def name : Consistency → String
  | any => "Any"
  | one => "One"
  | two => "Two"
  | three => "Three"
  | quorum => "Quorum"
  | all => "All"
  | localQuorum => "LocalQuorum"
  | eachQuorum => "EachQuorum"
  | localOne => "LocalOne"
  | serial => "Serial"
  | localSerial => "LocalSerial"

def levels : List Consistency :=
  [any, one, two, three, quorum, all, localQuorum, eachQuorum, localOne, serial, localSerial]

def ofName? (s : String) : Option Consistency :=
  levels.find? (·.name == s)

theorem ofName?_name (c : Consistency) : ofName? c.name = some c := by
  cases c <;> rfl

end Consistency

/-- Consistency of the read phase of a conditional write. -/
inductive SerialConsistency where
  | serial
  | localSerial
deriving DecidableEq

namespace SerialConsistency

def name : SerialConsistency → String
  | serial => "Serial"
  | localSerial => "LocalSerial"

def ofName? (s : String) : Option SerialConsistency :=
  [serial, localSerial].find? (·.name == s)

theorem ofName?_name (c : SerialConsistency) : ofName? c.name = some c := by
  cases c <;> rfl

end SerialConsistency
end CqlOperations
