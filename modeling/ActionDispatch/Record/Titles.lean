import ActionDispatch.Record.Property
import ActionDispatch.Text.Trim
import ActionDispatch.Value.Json

/-!
# Titles of fields

The display text of a field reached by a dotted path. Codes of a field with a selection are shown by
their title, every other value by its text. A record on the way belongs to the entity type it names,
or else to the one its field refers to.
-/

set_option autoImplicit false

namespace ActionDispatch

structure Titles where
  model : Option String
  scope : Table Value
  property? : (model field : String) → Option Property
  title? : (selection code : String) → Option String

namespace Titles

def path (text : String) : List String :=
  ((Text.trim (text.toList.filter (· ≠ '?'))).splitOn '.').map String.ofList

def label (t : Titles) (property : Option Property) (value : Value) : String :=
  if value.isNull then ""
  else
    match property.bind (·.selection) with
    | some selection => (t.title? selection value.text).getD value.text
    | none => value.text

/-- The display text at the end of a path from `current`, which belongs to `owner` unless it names
its entity type itself. -/
def follow (t : Titles) (owner : Option String) (current : Value) : List String → String
  | [] => ""
  | field :: rest =>
    if current.isNull then ""
    else
      let model := current.model?.orElse fun _ => owner
      let property := model.bind (t.property? · field)
      let next := (current.field? field).getD .null
      if rest.isEmpty then t.label property next
      else t.follow (property.bind (·.target)) next rest

def ofBinding (t : Titles) (text : String) : String :=
  match path text with
  | [] => ""
  | head :: rest =>
    let root := (t.scope.get? head).getD .null
    let property := t.model.bind (t.property? · head)
    if rest.isEmpty then t.label property root
    else t.follow (property.bind (·.target)) root rest

def below (t : Titles) (root : Value) (text : String) : String :=
  if root.isNull then "" else t.follow none root (path text)

end Titles

end ActionDispatch
