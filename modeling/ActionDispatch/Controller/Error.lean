/-!
# Controller failures
-/

set_option autoImplicit false

namespace ActionDispatch

inductive ControllerError where
  | notFound (controller : String)
  | methodNotFound (controller method : String)
  | failed (reason : String)
deriving DecidableEq, Repr

namespace ControllerError

def kind : ControllerError → String
  | .notFound _ => "NotFound"
  | .methodNotFound .. => "MethodNotFound"
  | .failed _ => "Failed"

def message : ControllerError → String
  | .notFound controller => "Controller not found: " ++ controller
  | .methodNotFound controller method => "Method not found: " ++ controller ++ "." ++ method
  | .failed reason => "Controller failed: " ++ reason

end ControllerError

end ActionDispatch
