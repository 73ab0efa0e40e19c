import ActionDispatch.Decimal.Bounds
import ActionDispatch.Json.Node

/-!
# Decoding JSON

Reading records, lists and tables out of a node. A record is an object with known fields, none of
them twice, or an array of its fields in order; fields that are not known may hold anything. Every
level of arrays and objects that is entered takes one of an allowance of levels.
-/

set_option autoImplicit false

namespace ActionDispatch.Json.Node

variable {α : Type}

def asString? : Node → Option String
  | .string s => some s
  | _ => none

def asBool? : Node → Option Bool
  | .bool b => some b
  | _ => none

def asNatural? : Node → Option Nat
  | .int n => if 0 ≤ n ∧ n.toNat < Decimal.wordLimit then some n.toNat else none
  | _ => none

def asOption? (decode : Node → Option α) : Node → Option (Option α)
  | .null => some none
  | node => (decode node).map some

def asList? (levels : Nat) (decode : Nat → Node → Option α) : Node → Option (List α)
  | .array items => if levels = 0 then none else items.mapM (decode (levels - 1))
  | _ => none

def keyed? : Option String × Node → Option (String × Node)
  | (some key, node) => some (key, node)
  | (none, _) => none

def entries? (levels : Nat) : Node → Option (List (String × Node))
  | .object fields => if levels = 0 then none else fields.mapM keyed?
  | _ => none

def asTable? (levels : Nat) (decode : Nat → Node → Option α) (node : Node) : Option (Table α) := do
  let entries ← node.entries? levels
  let entries ← entries.mapM fun (key, node) => (decode (levels - 1) node).map (key, ·)
  some (Table.ofList entries)

def knownFields? (names : List String) (entries : List (String × Node)) :
    Option (List (String × Node)) :=
  let known := entries.filter fun (key, _) => names.contains key
  if (known.map Prod.fst).Nodup then some known else none

def asRecord? (names : List String) (levels : Nat) (node : Node) : Option (List (String × Node)) :=
  match node with
  | .array items =>
    if levels = 0 ∨ names.length < items.length then none else some (names.zip items)
  | node => (node.entries? levels).bind (knownFields? names)

def required? (fields : List (String × Node)) (name : String) (decode : Node → Option α) :
    Option α :=
  (fields.lookup name).bind decode

def given? (fields : List (String × Node)) (name : String) (default : α)
    (decode : Node → Option α) : Option α :=
  match fields.lookup name with
  | some node => decode node
  | none => some default

end ActionDispatch.Json.Node
