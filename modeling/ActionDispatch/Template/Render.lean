import ActionDispatch.Event
import ActionDispatch.Record.Titles
import ActionDispatch.Script.Eval
import ActionDispatch.Template.Filter
import ActionDispatch.Text.Markup

/-!
# Rendering templates

Interpolations are evaluated as scripts, in order, and replaced by the text of their values. The
host of a template answers the calls of the formatter and hands on all others.
-/

set_option autoImplicit false

namespace ActionDispatch.Template

variable {Event₀ : Type}

def renderSegment (scope : Table Value) (host : Script.Host Event₀) :
    Segment → Run Event₀ ScriptError (List Char)
  | .text s => return s
  | .interpolation body => do
    return (← Script.evaluate (String.ofList body) scope host).text.toList

def render (template : String) (scope : Table Value) (host : Script.Host Event₀) :
    Run Event₀ ScriptError String := do
  let parts ← Run.forEach (renderSegment scope host) (segments template.toList)
  return String.ofList parts.flatten

def escapeValue (value : Value) : String :=
  if value.isNull then "" else Text.escapeMarkup value.text

def interpolate : List Char → List Value → List Char
  | [], _ => []
  | '\x7b' :: '\x7d' :: rest, param :: params => param.text.toList ++ interpolate rest params
  | '\x7b' :: '\x7d' :: rest, [] => '\x7b' :: '\x7d' :: interpolate rest []
  | c :: rest, params => c :: interpolate rest params

def logMessage (text : String) (params : List Value) : String :=
  String.ofList (interpolate text.toList params)

def logLevel? : String → Option Level
  | "info" => some .info
  | "debug" => some .debug
  | "warn" => some .warn
  | "error" => some .error
  | "trace" => some .trace
  | _ => none

def format (titles : Titles) (method : String) (args : List Value) :
    Run Event ScriptError Value :=
  match method, args with
  | "text", [.string path] => return .string (titles.ofBinding path)
  | "text", [root, .string path] => return .string (titles.below root path)
  | "escape", [value] => return .string (escapeValue value)
  | method, args =>
    match logLevel? method, args with
    | some level, text :: params => do
      Run.report (.logged level (logMessage text.text params))
      return .null
    | _, _ => .fail (.unknownMethod formatterName method)

def host (titles : Titles) (inner : Script.Host Event) : Script.Host Event where
  invokeStatic target method args :=
    if target = formatterName then format titles method args
    else inner.invokeStatic target method args
  invokeMethod := inner.invokeMethod

end ActionDispatch.Template
