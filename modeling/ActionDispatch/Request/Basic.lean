import ActionDispatch.Value.Basic

/-!
# Requests

A request names the actions to run and the record they run on. Its context is that record; its
bindings are what scripts see of it: each field, the entity type, and the record as a whole.
-/

set_option autoImplicit false

namespace ActionDispatch

structure Request where
  action : Option String
  model : Option String
  data : Option (Table Value)

structure Context where
  model : Option String
  fields : Table Value

namespace Context

def ofRequest (request : Request) : Context :=
  ⟨request.model, request.data.getD Table.empty⟩

def field? (context : Context) (name : String) : Option Value :=
  context.fields.get? name

def toValue (context : Context) : Value :=
  match context.model with
  | some model => .map (Table.insert context.fields Value.modelKey (.string model))
  | none => .map context.fields

def selfName : String := "__self__"

def bindings (context : Context) : Table Value :=
  let fields := Table.insertAll Table.empty context.fields
  let fields := match context.model with
    | some model => Table.insert fields Value.modelKey (.string model)
    | none => fields
  Table.insert fields selfName context.toValue

end Context

end ActionDispatch
