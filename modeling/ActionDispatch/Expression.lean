import ActionDispatch.Text.Trim

/-!
# Action expressions

An expression is a short text whose beginning says how the rest is evaluated:

* `eval: <script>`, a script;
* `action: <name>`, a named action;
* `call: <controller>:<method>`, a controller's method;
* `select: <query>`, one row of a query;
* `select[]: <query>`, all rows of a query.

Any other text stands for itself.
-/

set_option autoImplicit false

namespace ActionDispatch

namespace Expression

inductive Kind where
  | eval
  | action
  | call
  | selectOne
  | selectAll
  | literal
deriving DecidableEq, Repr

def Kind.name : Kind → String
  | .eval => "eval"
  | .action => "action"
  | .call => "call"
  | .selectOne => "select"
  | .selectAll => "select[]"
  | .literal => "literal"

end Expression

structure Expression where
  kind : Expression.Kind
  body : String
deriving DecidableEq, Repr

namespace Expression

def namedKinds : List Kind := [.selectAll, .selectOne, .action, .call, .eval]

def bodyFor? (kind : Kind) (text : List Char) : Option (List Char) :=
  match Text.after? (kind.name.toList ++ [':']) text with
  | none => none
  | some rest =>
    let body := Text.trimLeft rest
    if body.contains '\n' then none else some body

def parse (text : String) : Expression :=
  match namedKinds.findSome? fun kind =>
      (bodyFor? kind text.toList).map fun body => Expression.mk kind (String.ofList body) with
  | some expression => expression
  | none => ⟨.literal, text⟩

def isQuoted (text : List Char) : Bool :=
  match text with
  | [] | [_] => false
  | first :: rest => rest.getLast? = some first && (first = '"' || first = '\'')

/-- A call of `method` on the text of an expression. A text between parentheses is the argument list
itself, a quoted one is the only argument, and any other becomes the content of a string that
nothing in it can end but three quotes. -/
def asCall (method : String) (text : String) : String :=
  let text := Text.strip text
  if text.toList.head? = some '(' then method ++ text
  else if isQuoted text.toList then method ++ "(" ++ text ++ ")"
  else method ++ "(\"\"\"" ++ text ++ "\"\"\")"

end Expression

structure CallTarget where
  controller : String
  method : String
deriving DecidableEq, Repr

def CallTarget.parse? (text : String) : Option CallTarget :=
  match (text.toList.splitOn ':').map Text.trim with
  | [controller, method] =>
    if controller.isEmpty || method.isEmpty then none
    else some ⟨String.ofList controller, String.ofList method⟩
  | _ => none

structure Invocation where
  method : String
  arguments : String
deriving DecidableEq, Repr

def Invocation.parse? (text : String) : Option Invocation :=
  let s := Text.trim text.toList
  let method := s.takeWhile Text.isWordChar
  match s.dropWhile Text.isWordChar with
  | '(' :: rest =>
    let arguments := rest.dropLast
    if method.isEmpty || rest.getLast? != some ')' || arguments.contains '\n' then none
    else some ⟨String.ofList method, String.ofList arguments⟩
  | _ => none

end ActionDispatch
