import ActionDispatch.Json.Decoding
import ActionDispatch.Record.Property

/-!
# Properties as JSON
-/

set_option autoImplicit false

namespace ActionDispatch.Property

open Json

def ofNode? (levels : Nat) (node : Node) : Option Property := do
  let fields ← node.asRecord? ["name", "target", "selection"] levels
  some {
    name := ← Node.given? fields "name" "" Node.asString?
    target := ← Node.given? fields "target" none (Node.asOption? Node.asString?)
    selection := ← Node.given? fields "selection" none (Node.asOption? Node.asString?) }

def textField (name : String) : Option String → List (String × Json)
  | some s => [(name, .string s)]
  | none => []

def written (p : Property) : Json :=
  .object (("name", .string p.name) :: textField "target" p.target
    ++ textField "selection" p.selection)

end ActionDispatch.Property
