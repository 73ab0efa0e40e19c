import ActionDispatch.Action.Definition
import ActionDispatch.Json.Decoding

/-!
# Action definitions as JSON

A definition is an object whose field `type` says which other fields it has, or an array of the type
and those fields in order. Everything in it has to be readable.
-/

set_option autoImplicit false

namespace ActionDispatch.Definition

open Json

def ofFields? (type : String) (fields : Node) (levels : Nat) : Option Definition := do
  match type with
  | "method" =>
    let fields ← fields.asRecord? ["controller", "method"] levels
    some (.method (← Node.required? fields "controller" Node.asString?)
      (← Node.required? fields "method" Node.asString?))
  | "group" =>
    let fields ← fields.asRecord? ["actions"] levels
    some (.group (← Node.required? fields "actions"
      (Node.asList? (levels - 1) fun _ node => node.asString?)))
  | "expression" =>
    let fields ← fields.asRecord? ["expression"] levels
    some (.expression (← Node.required? fields "expression" Node.asString?))
  | _ => none

def isType (entry : Option String × Node) : Bool :=
  entry.1 = some "type"

def ofNode? (levels : Nat) (node : Node) : Option Definition := do
  let _ ← node.tree? levels
  match node with
  | .object fields =>
    match fields.filter isType with
    | [(_, .string type)] =>
      ofFields? type (.object (fields.filter fun entry => !isType entry)) levels
    | _ => none
  | .array (.string type :: items) => ofFields? type (.array items) levels
  | _ => none

def written : Definition → Json
  | .method controller name =>
    .object [("type", .string "method"), ("controller", .string controller),
      ("method", .string name)]
  | .group actions => .object [("type", .string "group"), ("actions", Json.strings actions)]
  | .expression text =>
    .object [("type", .string "expression"), ("expression", .string text)]

end ActionDispatch.Definition
