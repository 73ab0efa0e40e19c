import ActionDispatch.Decimal.Bounds
import ActionDispatch.Script.Error
import ActionDispatch.Text.Case
import ActionDispatch.Text.Trim
import ActionDispatch.Value.Json

/-!
# Operations of scripts

What members, positions, `+` and the built-in methods yield on values.
-/

set_option autoImplicit false

namespace ActionDispatch.Script

def readProperty (receiver : Value) (member : String) (safe : Bool) : Except ScriptError Value :=
  match receiver with
  | .null => if safe then .ok .null else .error (.nullReference member)
  | .map fields => .ok ((fields.lookup member).getD .null)
  | .query model filter _ =>
    if member = "model" then .ok (.string model)
    else if member = "filter" then .ok ((filter.map .string).getD .null)
    else .ok .null
  | other => .error (.type ("cannot read property '" ++ member ++ "' of " ++ other.typeName))

def readIndex (receiver position : Value) : Except ScriptError Value :=
  match receiver, position with
  | .null, _ => .error (.nullReference "[]")
  | .list items, .int i =>
    .ok (if i.toInt < 0 then .null else items[i.toInt.toNat]?.getD .null)
  | .map fields, .string key => .ok ((fields.lookup key).getD .null)
  | receiver, position =>
    .error (.type ("cannot index " ++ receiver.typeName ++ " with " ++ position.typeName))

def addInts (a b : Int64) : Except ScriptError Value :=
  match Decimal.int64? (a.toInt + b.toInt) with
  | some sum => .ok (.int sum)
  | none => .error (.type "integer overflow")

def add (left right : Value) : Except ScriptError Value :=
  match left, right with
  | .int a, .int b => addInts a b
  | .int a, .float b => .ok (.float (a.toFloat + b))
  | .float a, .int b => .ok (.float (a + b.toFloat))
  | .float a, .float b => .ok (.float (a + b))
  | .string a, b => .ok (.string (a ++ b.text))
  | a, .string b => .ok (.string (a.text ++ b))
  | .list a, .list b => .ok (.list (a ++ b))
  | .list a, b => .ok (.list (a ++ [b]))
  | a, b => .error (.type ("cannot add " ++ a.typeName ++ " and " ++ b.typeName))

def count (n : Nat) : Value :=
  .int (Int64.ofNat n)

def builtinGetter? (receiver : Value) (method : String) : Option Value :=
  match method, receiver with
  | "toString", v => some (.string v.text)
  | "size", .string s => some (count s.length)
  | "length", .string s => some (count s.length)
  | "size", .list items => some (count items.length)
  | "size", .map fields => some (count fields.length)
  | "isEmpty", .string s => some (.bool s.isEmpty)
  | "isEmpty", .list items => some (.bool items.isEmpty)
  | "isEmpty", .map fields => some (.bool fields.isEmpty)
  | "toUpperCase", .string s => some (.string (String.ofList (Text.upper s.toList)))
  | "toLowerCase", .string s => some (.string (String.ofList (Text.lower s.toList)))
  | "trim", .string s => some (.string (Text.strip s))
  | _, _ => none

def builtinQuery? (receiver : Value) (method : String) (arg : Value) :
    Option (Except ScriptError Value) :=
  match method, receiver, arg with
  | "contains", .string s, .string part =>
    some (.ok (.bool (Text.contains s.toList part.toList)))
  | "contains", .list items, item => some (.ok (.bool (items.any (·.looseEqual item))))
  | "containsKey", .map fields, .string key => some (.ok (.bool (fields.lookup key).isSome))
  | "get", .map fields, place => some (readIndex (.map fields) place)
  | "get", .list items, place => some (readIndex (.list items) place)
  | _, _, _ => none

def builtin? (receiver : Value) (method : String) (args : List Value) :
    Option (Except ScriptError Value) :=
  match args with
  | [] => (builtinGetter? receiver method).map .ok
  | [arg] => builtinQuery? receiver method arg
  | _ => none

end ActionDispatch.Script
