import ActionDispatch.Error
import ActionDispatch.Event
import ActionDispatch.Handler.Services
import ActionDispatch.Query.Text
import ActionDispatch.Run

/-!
# Handlers

A handler evaluates the expressions of one request. What it asks of controllers and of the query
engine is reported as it is asked.
-/

set_option autoImplicit false

namespace ActionDispatch

abbrev Evaluation := Run Event EvalError

structure Handler where
  services : Services
  request : Request
  context : Context
  bindings : Table Value

namespace Handler

def ofRequest (services : Services) (request : Request) : Handler :=
  let context := Context.ofRequest request
  ⟨services, request, context, context.bindings⟩

def call (h : Handler) (controller method : String) : Evaluation Response :=
  match h.services.controllers.get? controller with
  | none =>
    let error := ControllerError.notFound controller
    return Response.empty.withException error.kind error.message
  | some target => do
    Run.report (.handled controller method)
    match target.handle method h.request Response.empty with
    | (response, none) => return response
    | (response, some error) => return response.withException error.kind error.message

def askOne (engine : QueryEngine) (handle : engine.Handle) : Evaluation Value := do
  Run.report .askedOne
  match engine.one handle with
  | .ok value => return value
  | .error .noResult => return .null
  | .error error => .fail (.query error)

def prepare (h : Handler) (query : String) (params : List Value) :
    Run Event QueryError h.services.queries.Handle := do
  let text := Query.normalize query
  Run.report (.queried text)
  let handle ← Run.ofExcept (h.services.queries.create text)
  Run.report (.bound h.bindings params)
  return h.services.queries.bind handle h.bindings params

def selectOne (h : Handler) (query : String) (params : List Value) : Evaluation Value := do
  if Text.isBlankText query.toList then .fail .emptyQuery
  else
    let handle ← (h.prepare query params).mapError .query
    askOne h.services.queries handle

def fetchAll (h : Handler) (query : String) (params : List Value) :
    Run Event QueryError (List Value) := do
  let handle ← h.prepare query params
  Run.report .askedAll
  Run.ofExcept (h.services.queries.all handle)

def selectAll (h : Handler) (query : String) (params : List Value) : Evaluation Value :=
  if Text.isBlankText query.toList then .fail .emptyQuery
  else
    (h.fetchAll query params).settle fun result =>
      match QueryOutcome.capture result with
      | .rows found => .list found
      | .noResult => .null
      | .ignored _ => .null

def fetch (h : Handler) (query : Query) (scope : Table Value) : Evaluation Value := do
  Run.report (.described query)
  let handle ← Run.ofExcept ((h.services.queries.describe query).mapError .query)
  Run.report (.bound scope query.params)
  askOne h.services.queries (h.services.queries.bind handle scope query.params)

end Handler

end ActionDispatch
