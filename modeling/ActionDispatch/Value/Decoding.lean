import ActionDispatch.Json.Decoding
import ActionDispatch.Value.Json

/-!
# Decoding values
-/

set_option autoImplicit false

namespace ActionDispatch

open Json

def Value.ofNode? (levels : Nat) (node : Node) : Option Value :=
  (node.tree? levels).map .ofJson

def Query.ofNode? (levels : Nat) (node : Node) : Option Query := do
  let fields ← node.asRecord? ["model", "filter", "params"] levels
  some {
    model := ← Node.required? fields "model" Node.asString?
    filter := ← Node.given? fields "filter" none (Node.asOption? Node.asString?)
    params := ← Node.given? fields "params" [] (Node.asList? (levels - 1) Value.ofNode?) }

end ActionDispatch
