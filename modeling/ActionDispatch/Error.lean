import ActionDispatch.Controller.Error
import ActionDispatch.Query.Error
import ActionDispatch.Script.Error

/-!
# Failures of an evaluation

Why an expression has no result, and the failures of the library as a whole.
-/

set_option autoImplicit false

namespace ActionDispatch

inductive EvalError where
  | missingAction
  | emptyQuery
  | cyclicAction (name : String) (depth : Nat)
  | script (error : ScriptError)
  | query (error : QueryError)
  | invocation (reason : String)
deriving DecidableEq, Repr

namespace EvalError

/-- A refused action reference is the same failure outside of a script as inside. -/
def ofScript : ScriptError → EvalError
  | .cyclicAction name depth => .cyclicAction name depth
  | error => .script error

def kind : EvalError → String
  | .missingAction => "MissingAction"
  | .emptyQuery => "EmptyQuery"
  | .cyclicAction .. => "CyclicAction"
  | .script _ => "Script"
  | .query _ => "Query"
  | .invocation _ => "Invocation"

def message : EvalError → String
  | .missingAction => "No action given"
  | .emptyQuery => "Query text is empty"
  | .cyclicAction name depth => cyclicActionMessage name depth
  | .script error => "Script error: " ++ error.message
  | .query error => "Query error: " ++ error.message
  | .invocation reason => "Invocation failed: " ++ reason

def toScript : EvalError → ScriptError
  | .script error => error
  | .cyclicAction name depth => .cyclicAction name depth
  | error => .host error.message

end EvalError

inductive Failure where
  | eval (error : EvalError)
  | script (error : ScriptError)
  | query (error : QueryError)
  | controller (error : ControllerError)
  | internal (reason : String)
deriving DecidableEq, Repr

namespace Failure

def kind : Failure → String
  | .eval _ => "Eval"
  | .script _ => "Script"
  | .query _ => "Query"
  | .controller _ => "Controller"
  | .internal _ => "Internal"

def message : Failure → String
  | .eval error => "Evaluation error: " ++ error.message
  | .script error => "Script error: " ++ error.message
  | .query error => "Query error: " ++ error.message
  | .controller error => "Controller error: " ++ error.message
  | .internal reason => "Internal error: " ++ reason

end Failure

end ActionDispatch
