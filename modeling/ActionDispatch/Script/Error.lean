/-!
# Script failures
-/

set_option autoImplicit false

namespace ActionDispatch

inductive ScriptError where
  | parse (reason : String)
  | unknownName (name : String)
  | unknownMethod (target method : String)
  | nullReference (member : String)
  | type (reason : String)
  | host (reason : String)
  | cyclicAction (name : String) (depth : Nat)
deriving DecidableEq, Repr

def cyclicActionMessage (name : String) (depth : Nat) : String :=
  "Cyclic action reference: " ++ name ++ " (depth " ++ toString depth ++ ")"

def ScriptError.message : ScriptError → String
  | .parse reason => "Parse error: " ++ reason
  | .unknownName name => "Unknown name: " ++ name
  | .unknownMethod target method => "Unknown method: " ++ target ++ "." ++ method
  | .nullReference member => "Cannot access '" ++ member ++ "' on null"
  | .type reason => "Type error: " ++ reason
  | .host reason => "Host error: " ++ reason
  | .cyclicAction name depth => cyclicActionMessage name depth

end ActionDispatch
