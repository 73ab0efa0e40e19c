import ActionDispatch.Text.Trim

/-!
# Action definitions

A named action is a controller's method, a group of other actions, or an expression.
-/

set_option autoImplicit false

namespace ActionDispatch

inductive Definition where
  | method (controller method : String)
  | group (actions : List String)
  | expression (text : String)
deriving DecidableEq, Repr

structure Group where
  actions : List String
deriving DecidableEq, Repr

namespace Group

def empty : Group := ⟨[]⟩

def add (group : Group) (name : String) : Group :=
  let name := Text.strip name
  if name.isEmpty then group else ⟨group.actions ++ [name]⟩

def ofNames (names : List String) : Group :=
  names.foldl add empty

def parse (names : String) : Group :=
  ofNames ((names.toList.splitOn ',').map String.ofList)

end Group

end ActionDispatch
