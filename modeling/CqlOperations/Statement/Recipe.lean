import CqlOperations.Creator
import CqlOperations.Session.Network
import CqlOperations.Statement.Fold

/-! Recipes: how statements and their creators are written down. -/
namespace CqlOperations

inductive Statement.Recipe where
  | unprepared (text : String) (own : Options) (values : List Value)
  | prepared (text : String) (own : Options) (values : List Value)
  | folded (type : BatchType) (parts : List Statement.Recipe)
  | batch (type : BatchType) (texts : List String) (own : Options) (values : List (List Value))

namespace Statement.Recipe

mutual

/-- Makes the statement. Preparing one takes a session. -/
def make (prepare : Preparer) : Recipe → Outcome (Except OperationError Statement)
  | unprepared text own values =>
    .returned (.ok (.unprepared ⟨text, ({} : Settings).overlay own⟩ values))
  | prepared text own values =>
    match prepare text with
    | .returned made =>
      .returned (made.map fun () => .prepared ⟨text, ({} : Settings).overlay own⟩ values)
    | .panicked message => .panicked message
  | folded type parts =>
    match makeAll prepare parts with
    | .returned (.ok statements) =>
      .returned ((Statement.fold type statements).mapError .usage)
    | .returned (.error error) => .returned (.error error)
    | .panicked message => .panicked message
  | batch type texts own values =>
    .returned (.ok (.batch type (texts.map (⟨·, {}⟩)) (({} : Settings).overlay own) values))

/-- Makes statements in order, up to the first that cannot be made. -/
def makeAll (prepare : Preparer) : List Recipe → Outcome (Except OperationError (List Statement))
  | [] => .returned (.ok [])
  | recipe :: rest =>
    match make prepare recipe with
    | .returned (.ok statement) =>
      match makeAll prepare rest with
      | .returned (.ok statements) => .returned (.ok (statement :: statements))
      | failed => failed
    | .returned (.error error) => .returned (.error error)
    | .panicked message => .panicked message

end

end Statement.Recipe

/-- Creators of this kind read a text that may change between executions. -/
inductive Creator.Recipe where
  | statement (recipe : Statement.Recipe)
  | fails (message : String)
  | reads (pattern : String) (refused : Option String)

namespace Creator.Recipe

/-- The pattern with a text in place of each pair of braces. -/
def fill (pattern text : String) : String :=
  text.intercalate (pattern.splitOn "\x7b\x7d")

def make (prepare : Preparer) : Recipe → Outcome (Except OperationError (Creator String))
  | statement recipe =>
    match recipe.make prepare with
    | .returned made => .returned (made.map Creator.constant)
    | .panicked message => .panicked message
  | fails message => .returned (.ok ⟨fun current => (.error ⟨message⟩, current)⟩)
  | reads pattern refused =>
    .returned (.ok ⟨fun current =>
      (if refused = some current then .error ⟨"refused " ++ current⟩
        else .ok (Statement.ofText (fill pattern current)), current)⟩)

def makeAll (prepare : Preparer) :
    List Recipe → Outcome (Except OperationError (List (Creator String)))
  | [] => .returned (.ok [])
  | recipe :: rest =>
    match recipe.make prepare with
    | .returned (.ok creator) =>
      match makeAll prepare rest with
      | .returned (.ok creators) => .returned (.ok (creator :: creators))
      | failed => failed
    | .returned (.error error) => .returned (.error error)
    | .panicked message => .panicked message

end Creator.Recipe
end CqlOperations
