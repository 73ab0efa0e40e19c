import ActionDispatch.Action.Json
import ActionDispatch.Application.Basic
import ActionDispatch.Record.Json
import ActionDispatch.Value.Decoding

/-!
# Applications as JSON
-/

set_option autoImplicit false

namespace ActionDispatch

open Json

def xmlEscapeOfNode? (levels : Nat) (node : Node) : Option Bool := do
  let fields ← node.asRecord? ["xml_escape"] levels
  Node.given? fields "xml_escape" Settings.standard.xmlEscape Node.asBool?

def xmlEscapeWritten (xmlEscape : Bool) : Json :=
  .object [("xml_escape", .bool xmlEscape)]

def Settings.ofNode? (levels : Nat) (node : Node) : Option Settings := do
  let fields ← node.asRecord? ["max_action_depth", "template"] levels
  some {
    maxActionDepth :=
      ← Node.given? fields "max_action_depth" Settings.standard.maxActionDepth Node.asNatural?
    xmlEscape := ← Node.given? fields "template" Settings.standard.xmlEscape
      (xmlEscapeOfNode? (levels - 1)) }

def Settings.written (settings : Settings) : Json :=
  .object [("max_action_depth", .int settings.maxActionDepth),
    ("template", xmlEscapeWritten settings.xmlEscape)]

namespace Application

def ofNode? (levels : Nat) (node : Node) : Option Application := do
  let fields ← node.asRecord? ["config", "actions", "models", "selections", "records"] levels
  let inner := levels - 1
  some {
    settings := ← Node.given? fields "config" Settings.standard (Settings.ofNode? inner)
    actions := ← Node.given? fields "actions" Table.empty
      (Node.asTable? inner Definition.ofNode?)
    models := ← Node.given? fields "models" Table.empty
      (Node.asTable? inner fun levels => Node.asTable? levels Property.ofNode?)
    selections := ← Node.given? fields "selections" Table.empty
      (Node.asTable? inner fun levels => Node.asTable? levels fun _ node => node.asString?)
    records := ← Node.given? fields "records" Table.empty
      (Node.asTable? inner fun levels => Node.asList? levels Value.ofNode?) }

def tableWritten {α : Type} (json : α → Json) (t : Table α) : Json :=
  .object (t.map fun (key, a) => (key, json a))

def written (app : Application) : Json :=
  .object [("config", app.settings.written),
    ("actions", tableWritten Definition.written app.actions),
    ("models", tableWritten (tableWritten Property.written) app.models),
    ("selections", tableWritten (tableWritten .string) app.selections),
    ("records", tableWritten (fun rows => (Value.list rows).written) app.records)]

end Application

end ActionDispatch
