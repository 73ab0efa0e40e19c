import ActionDispatch.Json.Basic
import ActionDispatch.Table

/-!
# JSON as it is read

A node is a JSON text by its grammar alone. A number out of range and a text with an unpaired
surrogate have a place in it but no value, so that what nobody asks for may hold them. Fields keep
their order and their duplicates.
-/

set_option autoImplicit false

namespace ActionDispatch.Json

inductive Node where
  | null
  | bool (b : Bool)
  | int (n : Int)
  | float (x : Float)
  | string (s : String)
  | unreadable
  | array (items : List Node)
  | object (fields : List (Option String × Node))
deriving Inhabited

def levelLimit : Nat := 127

namespace Node

mutual
def tree? (levels : Nat) : Node → Option Json
  | .null => some .null
  | .bool b => some (.bool b)
  | .int n => some (.int n)
  | .float x => some (.float x)
  | .string s => some (.string s)
  | .unreadable => none
  | .array items => if levels = 0 then none else (itemTrees? (levels - 1) items).map .array
  | .object fields =>
    if levels = 0 then none
    else (fieldTrees? (levels - 1) fields).map fun fields => .object (Table.ofList fields)
termination_by structural n => n

def itemTrees? (levels : Nat) : List Node → Option (List Json)
  | [] => some []
  | item :: rest =>
    match item.tree? levels, itemTrees? levels rest with
    | some tree, some trees => some (tree :: trees)
    | _, _ => none
termination_by structural items => items

def fieldTrees? (levels : Nat) : List (Option String × Node) → Option (List (String × Json))
  | [] => some []
  | (key?, value) :: rest =>
    match key?, value.tree? levels, fieldTrees? levels rest with
    | some key, some tree, some trees => some ((key, tree) :: trees)
    | _, _, _ => none
termination_by structural fields => fields
end

end Node

mutual
def toNode : Json → Node
  | .null => .null
  | .bool b => .bool b
  | .int n => .int n
  | .float x => .float x
  | .string s => .string s
  | .array items => .array (itemNodes items)
  | .object fields => .object (fieldNodes fields)
termination_by structural j => j

def itemNodes : List Json → List Node
  | [] => []
  | item :: rest => item.toNode :: itemNodes rest
termination_by structural items => items

def fieldNodes : List (String × Json) → List (Option String × Node)
  | [] => []
  | (key, value) :: rest => (some key, value.toNode) :: fieldNodes rest
termination_by structural fields => fields
end

end ActionDispatch.Json
