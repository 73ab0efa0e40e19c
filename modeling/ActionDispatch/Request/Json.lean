import ActionDispatch.Request.Basic
import ActionDispatch.Value.Decoding

/-!
# Requests as JSON
-/

set_option autoImplicit false

namespace ActionDispatch.Request

open Json

def ofNode? (levels : Nat) (node : Node) : Option Request := do
  let fields ← node.asRecord? ["action", "model", "data"] levels
  some {
    action := ← Node.given? fields "action" none (Node.asOption? Node.asString?)
    model := ← Node.given? fields "model" none (Node.asOption? Node.asString?)
    data := ← Node.given? fields "data" none
      (Node.asOption? (Node.asTable? (levels - 1) Value.ofNode?)) }

def textOrNull : Option String → Json
  | some s => .string s
  | none => .null

def written (r : Request) : Json :=
  .object [("action", textOrNull r.action), ("model", textOrNull r.model),
    ("data", match r.data with
      | some data => (Value.map data).written
      | none => .null)]

end ActionDispatch.Request
