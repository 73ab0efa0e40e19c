import ActionDispatch.Response.Basic
import ActionDispatch.Value.Decoding

/-!
# Decoding responses
-/

set_option autoImplicit false

namespace ActionDispatch.Response

open Json

def Status.ofName? : String → Option Status
  | "success" => some .success
  | "failure" => some .failure
  | _ => none

def Status.ofNode? (levels : Nat) : Node → Option Status
  | .string name => Status.ofName? name
  | .object [(some name, .null)] => if levels = 0 then none else Status.ofName? name
  | _ => none

def Fault.ofNode? (levels : Nat) (node : Node) : Option Fault := do
  let fields ← node.asRecord? ["kind", "message"] levels
  some {
    kind := ← Node.required? fields "kind" Node.asString?
    message := ← Node.required? fields "message" Node.asString? }

def fieldNames : List String :=
  ["status", "data", "exception", "reload", "flash", "alert", "error", "values"]

def ofNode? (levels : Nat) (node : Node) : Option Response := do
  let fields ← node.asRecord? fieldNames levels
  let inner := levels - 1
  let text (name : String) := Node.given? fields name none (Node.asOption? Node.asString?)
  some {
    status := ← Node.required? fields "status" (Status.ofNode? inner)
    data := ← Node.given? fields "data" none (Node.asOption? (Value.ofNode? inner))
    exception := ← Node.given? fields "exception" none (Node.asOption? (Fault.ofNode? inner))
    reload := ← Node.given? fields "reload" false Node.asBool?
    flash := ← text "flash"
    alert := ← text "alert"
    error := ← text "error"
    values := ← Node.given? fields "values" Table.empty (Node.asTable? inner Value.ofNode?) }

end ActionDispatch.Response
