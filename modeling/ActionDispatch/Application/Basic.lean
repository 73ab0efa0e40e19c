import ActionDispatch.Handler.Services
import ActionDispatch.Query.Store

/-!
# Applications

Everything that the services of an application are made of: settings, named actions, the fields of
its models, the titles of its selections, and its records.
-/

set_option autoImplicit false

namespace ActionDispatch

structure Application where
  settings : Settings
  actions : Table Definition
  models : Table (Table Property)
  selections : Table (Table String)
  records : Table (List Value)

namespace Application

def empty : Application :=
  ⟨.standard, Table.empty, Table.empty, Table.empty, Table.empty⟩

def services (app : Application) (controllers : Registry) : Services where
  settings := app.settings
  action? := app.actions.get?
  controllers := controllers
  queries := (RecordStore.ofRecords app.records).engine
  property? := (Mapping.ofModels app.models).property?
  title? := Catalog.title? app.selections

end Application

end ActionDispatch
