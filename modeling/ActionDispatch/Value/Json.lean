import ActionDispatch.Decimal.Bounds
import ActionDispatch.Json.Node
import ActionDispatch.Value.Basic

/-!
# Values as JSON

Every value has a JSON tree, in which the fields of a query stand in order, and a written form, in
which they stand as declared. Reading a tree back gives values without queries.
-/

set_option autoImplicit false

namespace ActionDispatch.Value

def floatJson (x : Float) : Json :=
  if x.isFinite then .float x else .null

def filterField (filter : Option String) : List (String × Json) :=
  match filter with
  | some text => [("filter", .string text)]
  | none => []

def paramsField (params : List Json) : List (String × Json) :=
  if params.isEmpty then [] else [("params", .array params)]

mutual
def toJson : Value → Json
  | .null => .null
  | .bool b => .bool b
  | .int n => .int n.toInt
  | .float x => floatJson x
  | .string s => .string s
  | .list items => .array (itemsToJson items)
  | .map fields => .object (fieldsToJson fields)
  | .query model filter params =>
    .object (filterField filter ++ ("model", .string model) :: paramsField (itemsToJson params))
termination_by structural v => v

def itemsToJson : List Value → List Json
  | [] => []
  | item :: rest => item.toJson :: itemsToJson rest
termination_by structural items => items

def fieldsToJson : List (String × Value) → List (String × Json)
  | [] => []
  | (key, value) :: rest => (key, value.toJson) :: fieldsToJson rest
termination_by structural fields => fields
end

mutual
def written : Value → Json
  | .null => .null
  | .bool b => .bool b
  | .int n => .int n.toInt
  | .float x => floatJson x
  | .string s => .string s
  | .list items => .array (itemsWritten items)
  | .map fields => .object (fieldsWritten fields)
  | .query model filter params =>
    .object (("model", .string model) :: filterField filter ++ paramsField (itemsWritten params))
termination_by structural v => v

def itemsWritten : List Value → List Json
  | [] => []
  | item :: rest => item.written :: itemsWritten rest
termination_by structural items => items

def fieldsWritten : List (String × Value) → List (String × Json)
  | [] => []
  | (key, value) :: rest => (key, value.written) :: fieldsWritten rest
termination_by structural fields => fields
end

def ofInt (n : Int) : Value :=
  match Decimal.int64? n with
  | some i => .int i
  | none => .float (Float.ofInt n)

mutual
def ofJson : Json → Value
  | .null => .null
  | .bool b => .bool b
  | .int n => ofInt n
  | .float x => .float x
  | .string s => .string s
  | .array items => .list (itemsOfJson items)
  | .object fields => .map (fieldsOfJson fields)
termination_by structural j => j

def itemsOfJson : List Json → List Value
  | [] => []
  | item :: rest => ofJson item :: itemsOfJson rest
termination_by structural items => items

def fieldsOfJson : List (String × Json) → List (String × Value)
  | [] => []
  | (key, value) :: rest => (key, ofJson value) :: fieldsOfJson rest
termination_by structural fields => fields
end

def text : Value → String
  | .null => "null"
  | .bool b => Json.boolText b
  | .int n => toString n.toInt
  | .float x => Decimal.plain.write x
  | .string s => s
  | v => v.toJson.compact

end ActionDispatch.Value
