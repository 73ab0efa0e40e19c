import ActionDispatch.Table

/-!
# Fields and selections

A mapping tells of the fields of each entity type which type they refer to and which selection
labels their codes. A catalog holds the titles of the codes of each selection.
-/

set_option autoImplicit false

namespace ActionDispatch

structure Property where
  name : String
  target : Option String
  selection : Option String
deriving DecidableEq, Repr

abbrev Mapping := Table (Table Property)

namespace Mapping

def register (mapping : Mapping) (model field : String) (property : Property) : Mapping :=
  let property := if property.name.isEmpty then { property with name := field } else property
  Table.update mapping model fun fields => Table.insert (fields.getD Table.empty) field property

def ofModels (models : List (String × List (String × Property))) : Mapping :=
  models.foldl
    (fun mapping (model, fields) =>
      fields.foldl (fun mapping (field, property) => register mapping model field property) mapping)
    Table.empty

def property? (mapping : Mapping) (model field : String) : Option Property :=
  (Table.get? mapping model).bind fun fields => Table.get? fields field

end Mapping

abbrev Catalog := Table (Table String)

namespace Catalog

def register (catalog : Catalog) (selection code title : String) : Catalog :=
  Table.update catalog selection fun titles => Table.insert (titles.getD Table.empty) code title

def title? (catalog : Catalog) (selection code : String) : Option String :=
  (Table.get? catalog selection).bind fun titles => Table.get? titles code

end Catalog

end ActionDispatch
