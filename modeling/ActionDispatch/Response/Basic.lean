import ActionDispatch.Value.Json

/-!
# Responses

What an action answers to the user interface, and the result of an expression: a value or such a
response.
-/

set_option autoImplicit false

namespace ActionDispatch

namespace Response

inductive Status where
  | success
  | failure
deriving DecidableEq, Repr

def Status.name : Status → String
  | .success => "success"
  | .failure => "failure"

structure Fault where
  kind : String
  message : String
deriving DecidableEq, Repr

end Response

structure Response where
  status : Response.Status
  data : Option Value
  exception : Option Response.Fault
  reload : Bool
  flash : Option String
  alert : Option String
  error : Option String
  values : Table Value

namespace Response

def empty : Response :=
  ⟨.success, none, none, false, none, none, none, Table.empty⟩

def success (data : Value) : Response :=
  { empty with data := some data }

def isSuccess (r : Response) : Bool :=
  r.status = .success

def withException (r : Response) (kind message : String) : Response :=
  { r with status := .failure, exception := some ⟨kind, message⟩ }

def withValue (r : Response) (field : String) (value : Value) : Response :=
  { r with values := r.values.insert field value }

def optionalField {α : Type} (name : String) (json : α → Json) (content : Option α) :
    List (String × Json) :=
  match content with
  | some a => [(name, json a)]
  | none => []

def Fault.json (fault : Fault) : Json :=
  .object [("kind", .string fault.kind), ("message", .string fault.message)]

def fields (json : Value → Json) (r : Response) : List (String × Json) :=
  ("status", .string r.status.name) :: optionalField "data" json r.data
    ++ optionalField "exception" Fault.json r.exception
    ++ (if r.reload then [("reload", .bool true)] else [])
    ++ optionalField "flash" .string r.flash
    ++ optionalField "alert" .string r.alert
    ++ optionalField "error" .string r.error
    ++ (if r.values.isEmpty then []
      else [("values", .object (r.values.map fun (field, value) => (field, json value)))])

def written (r : Response) : Json :=
  .object (r.fields Value.written)

def toJson (r : Response) : Json :=
  .object (Table.ofList (r.fields Value.toJson))

def toValue (r : Response) : Value :=
  .ofJson r.toJson

end Response

inductive Result where
  | value (value : Value)
  | response (response : Response)

def Result.null : Result := .value .null

def Result.written : Result → Json
  | .value v => v.written
  | .response r => r.written

end ActionDispatch
