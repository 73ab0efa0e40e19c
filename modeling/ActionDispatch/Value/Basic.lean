import ActionDispatch.Decimal.Layout
import ActionDispatch.Json.Writer
import ActionDispatch.Table

/-!
# Values

The dynamic values that flow through bindings, scripts and results. A map stands for a record; its
entry `_model` names the record's entity type. A query is an inert description of rows to fetch.
-/

set_option autoImplicit false

namespace ActionDispatch

inductive Value where
  | null
  | bool (b : Bool)
  | int (n : Int64)
  | float (x : Float)
  | string (s : String)
  | list (items : List Value)
  | map (fields : List (String × Value))
  | query (model : String) (filter : Option String) (params : List Value)
deriving Inhabited

structure Query where
  model : String
  filter : Option String
  params : List Value

namespace Value

def modelKey : String := "_model"

def ofQuery (q : Query) : Value :=
  .query q.model q.filter q.params

def isNull : Value → Bool
  | .null => true
  | _ => false

def truthy : Value → Bool
  | .null => false
  | .bool b => b
  | .int n => n != 0
  | .float x => x != 0
  | .string s => !s.isEmpty
  | .list items => !items.isEmpty
  | .map fields => !fields.isEmpty
  | .query .. => true

def asString? : Value → Option String
  | .string s => some s
  | _ => none

def asInt? : Value → Option Int64
  | .int n => some n
  | .float x => if x.isFinite && x.floor == x then some x.toInt64 else none
  | _ => none

def field? (name : String) : Value → Option Value
  | .map fields => fields.lookup name
  | _ => none

def model? (v : Value) : Option String :=
  (v.field? modelKey).bind asString?

def typeName : Value → String
  | .null => "null"
  | .bool _ => "boolean"
  | .int _ => "integer"
  | .float _ => "float"
  | .string _ => "string"
  | .list _ => "list"
  | .map _ => "map"
  | .query .. => "query"

mutual
def equal : Value → Value → Bool
  | .null, .null => true
  | .bool a, .bool b => a == b
  | .int a, .int b => a == b
  | .float a, .float b => a == b
  | .string a, .string b => a == b
  | .list a, .list b => equalItems a b
  | .map a, .map b => equalFields a b
  | .query m f a, .query n g b => m == n && f == g && equalItems a b
  | _, _ => false
termination_by structural v => v

def equalItems : List Value → List Value → Bool
  | [], [] => true
  | a :: as, b :: bs => a.equal b && equalItems as bs
  | _, _ => false
termination_by structural as => as

def equalFields : List (String × Value) → List (String × Value) → Bool
  | [], [] => true
  | (k, a) :: as, (l, b) :: bs => k == l && a.equal b && equalFields as bs
  | _, _ => false
termination_by structural as => as
end

def looseEqual : Value → Value → Bool
  | .int a, .float b => a.toFloat == b
  | .float a, .int b => b.toFloat == a
  | a, b => a.equal b

end Value

end ActionDispatch
