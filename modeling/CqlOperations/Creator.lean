import CqlOperations.Error

/-! Creators make the statements of an operation, anew on each execution. -/
namespace CqlOperations

/-- Makes a statement from a state that it may read and change. -/
structure Creator (σ : Type) where
  create : σ → Except CreationError Statement × σ

namespace Creator

variable {σ : Type}

/-- Hands out the same statement each time. -/
def constant (statement : Statement) : Creator σ :=
  ⟨fun state => (.ok statement, state)⟩

/-- Binds a row of values to a statement; a batch has no place for them. -/
def ofRow (statement : Statement) (row : List Value) : Creator σ :=
  ⟨fun state => (match statement.rebind? row with
    | some bound => .ok bound
    | none => .error ⟨"a batch cannot be bound to a row of values"⟩, state)⟩

/-- Calls creators in order, up to the first one that fails. -/
def createAll : List (Creator σ) → σ → Except CreationError (List Statement) × σ
  | [], state => (.ok [], state)
  | creator :: rest, state =>
    match creator.create state with
    | (.error error, state) => (.error error, state)
    | (.ok statement, state) =>
      match createAll rest state with
      | (.error error, state) => (.error error, state)
      | (.ok statements, state) => (.ok (statement :: statements), state)

end Creator
end CqlOperations
