import ActionDispatch.Expression
import ActionDispatch.Value.Basic

/-!
# Events

What a run reports, in order: the expressions it takes up, the action references it follows or
refuses, the calls that reach controllers and the query engine, and messages logged by templates. A
query is prepared from a text or from a description, bound to parameters, and asked for one row or
for all of them.
-/

set_option autoImplicit false

namespace ActionDispatch

inductive Level where
  | trace
  | debug
  | info
  | warn
  | error
deriving DecidableEq, Repr

inductive Event where
  | dispatched (expression : Expression) (depth : Nat)
  | followed (action : String) (depth : Nat)
  | refused (action : String) (depth : Nat)
  | handled (controller method : String)
  | called (controller method : String) (args : List Value)
  | queried (text : String)
  | described (query : Query)
  | bound (scope : Table Value) (params : List Value)
  | askedOne
  | askedAll
  | logged (level : Level) (message : String)

end ActionDispatch
