/-!
# JSON trees

A number is whole or not; an object is a list of fields, in the order in which they are written.
-/

set_option autoImplicit false

namespace ActionDispatch

inductive Json where
  | null
  | bool (b : Bool)
  | int (n : Int)
  | float (x : Float)
  | string (s : String)
  | array (items : List Json)
  | object (fields : List (String × Json))
deriving Inhabited

namespace Json

def strings (texts : List String) : Json :=
  .array (texts.map .string)

def field? (key : String) : Json → Option Json
  | .object fields => fields.lookup key
  | _ => none

end Json

end ActionDispatch
