import ActionDispatch.Run
import ActionDispatch.Script.Operation
import ActionDispatch.Script.Parser

/-!
# Evaluating scripts

A script is evaluated against a scope of bound names and a host. An unbound name is null. A call on
a path of names whose head is unbound goes to the host, and so does a method that values do not have
of themselves. Operands are evaluated from left to right, and no further than their result is
needed.
-/

set_option autoImplicit false

namespace ActionDispatch.Script

structure Host (Event : Type) where
  invokeStatic : (target method : String) → List Value → Run Event ScriptError Value
  invokeMethod : (receiver : Value) → (method : String) → List Value → Run Event ScriptError Value

def Host.detached {Event : Type} : Host Event where
  invokeStatic target method _ := .fail (.unknownMethod target method)
  invokeMethod receiver method _ := .fail (.unknownMethod receiver.typeName method)

def Expr.staticPath? (scope : Table Value) : Expr → Option String
  | .name head => if scope.contains head then none else some head
  | .property target member false =>
    (target.staticPath? scope).map fun path => path ++ "." ++ member
  | _ => none

variable {Event : Type}

def operate (op : BinaryOp) (left : Value) (right : Unit → Run Event ScriptError Value) :
    Run Event ScriptError Value :=
  match op with
  | .and => if left.truthy then do return .bool (← right ()).truthy else return .bool false
  | .or => if left.truthy then return .bool true else do return .bool (← right ()).truthy
  | .eq => do return .bool (left.looseEqual (← right ()))
  | .ne => do return .bool !(left.looseEqual (← right ()))
  | .add => do Run.ofExcept (add left (← right ()))

def invokeOn (host : Host Event) (receiver : Value) (method : String) (args : List Value) :
    Run Event ScriptError Value :=
  match builtin? receiver method args with
  | some result => .ofExcept result
  | none => host.invokeMethod receiver method args

mutual
def Expr.eval (scope : Table Value) (host : Host Event) : Expr → Run Event ScriptError Value
  | .literal value => return value
  | .list items => do return .list (← evalAll scope host items)
  | .name word => return (scope.get? word).getD .null
  | .property target member safe => do
    Run.ofExcept (readProperty (← target.eval scope host) member safe)
  | .index target position => do
    let receiver ← target.eval scope host
    Run.ofExcept (readIndex receiver (← position.eval scope host))
  | .call function _ => .fail (.unknownName function)
  | .invoke target method args safe =>
    match target.staticPath? scope with
    | some path => do host.invokeStatic path method (← evalAll scope host args)
    | none => do
      let receiver ← target.eval scope host
      if receiver.isNull then
        if safe then return .null else .fail (.nullReference method)
      else
        invokeOn host receiver method (← evalAll scope host args)
  | .not operand => do return .bool !(← operand.eval scope host).truthy
  | .binary op left right => do
    operate op (← left.eval scope host) fun _ => right.eval scope host
  | .elvis left right => do
    let value ← left.eval scope host
    if value.truthy then return value else right.eval scope host
termination_by structural e => e

def evalAll (scope : Table Value) (host : Host Event) :
    List Expr → Run Event ScriptError (List Value)
  | [] => return []
  | e :: rest => do
    let value ← e.eval scope host
    return value :: (← evalAll scope host rest)
termination_by structural es => es
end

def evaluate (text : String) (scope : Table Value) (host : Host Event) :
    Run Event ScriptError Value := do
  let e ← Run.ofExcept (parse text)
  e.eval scope host

def callOn (object : (method : String) → List Value → Run Event ScriptError Value) (text : String)
    (scope : Table Value) (host : Host Event) : Run Event ScriptError Value := do
  match ← Run.ofExcept (parse text) with
  | .call method args => do object method (← evalAll scope host args)
  | _ => .fail (.parse ("not a method call: " ++ text))

end ActionDispatch.Script
