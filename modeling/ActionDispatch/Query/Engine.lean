import ActionDispatch.Query.Error
import ActionDispatch.Value.Basic

/-!
# Query engines

What `select:`, `select[]:` and `search` ask for rows. A query is prepared from its text or from its
description, parameters are bound to it, and it is asked for its only row or for all of them.
-/

set_option autoImplicit false

namespace ActionDispatch

structure QueryEngine where
  Handle : Type
  create : String → Except QueryError Handle
  describe : Query → Except QueryError Handle
  bind : Handle → Table Value → List Value → Handle
  one : Handle → Except QueryError Value
  all : Handle → Except QueryError (List Value)

end ActionDispatch
