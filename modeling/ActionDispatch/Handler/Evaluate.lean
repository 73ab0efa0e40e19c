import ActionDispatch.Handler.Basic
import ActionDispatch.Template.Render

/-!
# Evaluating expressions

Expressions, actions and searches call one another: an action may be an expression, a script may
evaluate expressions through `__me__`, and a search runs a script. References to actions are counted
and refused beyond the limit of the settings. Scripts that evaluate expressions are not bounded by
it, so every step into a nested evaluation takes one of an allowance of steps.
-/

set_option autoImplicit false

namespace ActionDispatch.Handler

def selfCallName : String := "__me__"

def runGroup (step : String → Evaluation Result) :
    (names : List String) → (values : List Value) → Evaluation Result
  | [], values => return .value (.list values)
  | name :: rest, values => do
    match ← step name with
    | .response response => return .response response
    | .value value => runGroup step rest (values ++ [value])

abbrev Nested := String → Nat → Evaluation Result

abbrev Search := String → String → Table Value → Nat → Evaluation Value

def resultValue : Result → Value
  | .value value => value
  | .response response => response.toValue

def invoke (h : Handler) (nested : Nested) (search : Search) (depth : Nat) (method : String)
    (args : List Value) : Evaluation Value :=
  match method, args with
  | "selectOne", .string query :: params => h.selectOne query params
  | "selectAll", .string query :: params => h.selectAll query params
  | "search", [.string model, .string filter] => search model filter Table.empty depth
  | "search", [.string model, .string filter, .map params] => search model filter params depth
  | "evaluate", [.string text] => do return resultValue (← nested text (depth + 1))
  | method, _ => .fail (.script (.unknownMethod selfCallName method))

def host (h : Handler) (nested : Nested) (search : Search) (depth : Nat) : Script.Host Event where
  invokeStatic target method args :=
    if target = selfCallName then
      (h.invoke nested search depth method args).mapError EvalError.toScript
    else
      match method, args with
      | "all", [] => return .query target none []
      | method, _ => .fail (.unknownMethod target method)
  invokeMethod receiver method args :=
    match receiver, method, args with
    | .query model _ _, "filter", .string filter :: params =>
      return .query model (some filter) params
    | receiver, method, _ => .fail (.unknownMethod receiver.typeName method)

def script (h : Handler) (nested : Nested) (search : Search) (text : String) (depth : Nat) :
    Evaluation Value :=
  (Script.evaluate text h.bindings (h.host nested search depth)).mapError EvalError.ofScript

def searchScript (model filter : String) : String :=
  model ++ ".all()." ++ Expression.asCall "filter" filter

def fetchDescribed (h : Handler) (text : String) (params : Table Value) : Value → Evaluation Value
  | .query model filter args =>
    h.fetch ⟨model, filter, args⟩ (Table.insertAll h.bindings params)
  | other =>
    .fail (.invocation ("search produced " ++ other.typeName ++ " instead of a query: " ++ text))

mutual
def evaluateAt (h : Handler) : (fuel : Nat) → (text : String) → (depth : Nat) → Evaluation Result
  | 0, _, _ => .unfinished
  | fuel + 1, text, depth =>
    if text.isEmpty then return .null
    else do
      let expression := Expression.parse text
      let body := expression.body
      let script (text : String) : Evaluation Result := do
        return .value (← h.script (h.evaluateAt fuel) (h.searchAt fuel) text depth)
      Run.report (.dispatched expression depth)
      match expression.kind with
      | .literal => return .value (.string body)
      | .eval => script body
      | .action => h.actionAt fuel body (depth + 1)
      | .call =>
        match CallTarget.parse? body with
        | none => return .null
        | some target => return .response (← h.call target.controller target.method)
      | .selectOne => script (Expression.asCall (selfCallName ++ ".selectOne") body)
      | .selectAll => script (Expression.asCall (selfCallName ++ ".selectAll") body)
termination_by structural fuel => fuel

def actionAt (h : Handler) : (fuel : Nat) → (name : String) → (depth : Nat) → Evaluation Result
  | 0, _, _ => .unfinished
  | fuel + 1, name, depth => do
    let name := Text.strip name
    if h.services.settings.maxActionDepth < depth then
      Run.report (.refused name depth)
      .fail (.cyclicAction name depth)
    else
      match h.services.action? name with
      | none => return .null
      | some definition =>
        Run.report (.followed name depth)
        match definition with
        | .method controller method => return .response (← h.call controller method)
        | .group actions =>
          runGroup (fun name => h.actionAt fuel name (depth + 1)) (Group.ofNames actions).actions []
        | .expression text => h.evaluateAt fuel text depth
termination_by structural fuel => fuel

def searchAt (h : Handler) :
    (fuel : Nat) → (model filter : String) → (params : Table Value) → (depth : Nat) →
      Evaluation Value
  | 0, _, _, _, _ => .unfinished
  | fuel + 1, model, filter, params, depth => do
    let text := searchScript model filter
    h.fetchDescribed text params
      (← h.script (h.evaluateAt fuel) (h.searchAt fuel) text depth)
termination_by structural fuel => fuel
end

/-- The steps that the program allows an evaluation. -/
def allowance : Nat := 100000

def evaluate (h : Handler) (fuel : Nat) (text : String) : Evaluation Result :=
  h.evaluateAt fuel text 0

def search (h : Handler) (fuel : Nat) (model filter : String) (params : Table Value) :
    Evaluation Value :=
  h.searchAt fuel model filter params 0

def hostAt (h : Handler) (fuel depth : Nat) : Script.Host Event :=
  h.host (h.evaluateAt fuel) (h.searchAt fuel) depth

def callObject (target : Controller) (identifier : String) (method : String) (args : List Value) :
    Run Event ScriptError Value := do
  Run.report (.called identifier method args)
  Run.ofExcept ((target.call method args).mapError fun error => .host error.message)

def rpc (h : Handler) (fuel : Nat) (controller text : String) : Evaluation Value :=
  match Invocation.parse? text with
  | none => return .null
  | some _ =>
    match h.services.controllers.get? controller with
    | none => .fail (.invocation (ControllerError.notFound controller).message)
    | some target =>
      (Script.callOn (callObject target controller) (Text.strip text) h.bindings
        (h.hostAt fuel 0)).mapError fun error => .invocation error.message

inductive TemplateKind where
  | script
  | plain
deriving DecidableEq, Repr

def titles (h : Handler) : Titles :=
  ⟨h.context.model, h.bindings, h.services.property?, h.services.title?⟩

def render (h : Handler) (fuel : Nat) (kind : TemplateKind) (template : String) :
    Evaluation String :=
  if Text.isBlankText template.toList then return ""
  else
    let text := match kind with
      | .script => Template.preprocess h.services.settings.xmlEscape template
      | .plain => template
    (Template.render text h.bindings (Template.host h.titles (h.hostAt fuel 0))).mapError
      EvalError.ofScript

def chainResponse : Except EvalError Result → Response
  | .ok (.response response) => response
  | .ok (.value data) => Response.success data
  | .error error => Response.empty.withException error.kind error.message

def execute (h : Handler) (fuel : Nat) : Evaluation Response :=
  match h.request.action with
  | none => .fail .missingAction
  | some names =>
    (runGroup (fun name => h.actionAt fuel name 1) (Group.parse names).actions []).settle
      chainResponse

end ActionDispatch.Handler
