import ActionDispatch.Action.Definition
import ActionDispatch.Controller.Basic
import ActionDispatch.Query.Engine
import ActionDispatch.Record.Property

/-!
# Services

What all handlers share: the limits, the named actions, the controllers, the query engine, and what
titles are looked up in.
-/

set_option autoImplicit false

namespace ActionDispatch

structure Settings where
  maxActionDepth : Nat
  xmlEscape : Bool
deriving DecidableEq, Repr

def Settings.standard : Settings := ⟨32, true⟩

structure Services where
  settings : Settings
  action? : String → Option Definition
  controllers : Registry
  queries : QueryEngine
  property? : (model field : String) → Option Property
  title? : (selection code : String) → Option String

end ActionDispatch
