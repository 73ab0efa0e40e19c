/-!
# Query failures

Why a query has no answer, and what a query that may fail comes to.
-/

set_option autoImplicit false

namespace ActionDispatch

inductive QueryError where
  | noResult
  | invalid (reason : String)
  | unknownModel (model : String)
  | missingParameter (name : String)
  | nonUnique (rows : Nat)
  | execution (reason : String)
deriving DecidableEq, Repr

def QueryError.message : QueryError → String
  | .noResult => "No result found"
  | .invalid reason => "Invalid query: " ++ reason
  | .unknownModel model => "Unknown model: " ++ model
  | .missingParameter name => "Missing query parameter: " ++ name
  | .nonUnique rows => "Expected a single result, found " ++ toString rows
  | .execution reason => "Query execution failed: " ++ reason

inductive QueryOutcome (α : Type) where
  | rows (found : α)
  | noResult
  | ignored (error : QueryError)

namespace QueryOutcome

variable {α : Type}

def capture : Except QueryError α → QueryOutcome α
  | .ok found => .rows found
  | .error .noResult => .noResult
  | .error error => .ignored error

def found? : QueryOutcome α → Option α
  | .rows found => some found
  | _ => none

end QueryOutcome

end ActionDispatch
