import ActionDispatch.Query.Engine
import ActionDispatch.Query.Select

/-!
# The record store

Rows in the order of their insertion, by entity type, and the queries that are answered from them.
-/

set_option autoImplicit false

namespace ActionDispatch

abbrev RecordStore := Table (List Value)

namespace RecordStore

def tagged (model : String) : Value → Value
  | .map fields =>
    if (fields.lookup Value.modelKey).isSome then .map fields
    else .map (Table.insert fields Value.modelKey (.string model))
  | row => row

def insert (store : RecordStore) (model : String) (row : Value) : RecordStore :=
  Table.update store model fun rows => rows.getD [] ++ [tagged model row]

/-- The store of the rows of some models. A model without rows is not known to it. -/
def ofRecords (records : List (String × List Value)) : RecordStore :=
  records.foldl
    (fun store (model, rows) => rows.foldl (fun store row => insert store model row) store)
    Table.empty

def count (store : RecordStore) (model : String) : Nat :=
  ((Table.get? store model).getD []).length

end RecordStore

structure RecordQuery where
  select : Query.Select
  rows : List Value
  named : Table Value
  positional : List Value

namespace RecordQuery

open Query

def valueAt? (row : Value) (path : List String) : Option Value :=
  path.foldlM (fun value name => value.field? name) row

def bind (q : RecordQuery) (scope : Table Value) (params : List Value) : RecordQuery :=
  { q with named := scope, positional := if params.isEmpty then q.positional else params }

def operand (q : RecordQuery) : Operand → Except QueryError Value
  | .literal value => .ok value
  | .named name =>
    match q.named.get? name with
    | some value => .ok value
    | none => .error (.missingParameter (":" ++ name))
  | .positional position =>
    match q.positional[position - 1]? with
    | some value => .ok value
    | none => .error (.missingParameter ("?" ++ toString position))

def meets (row : Value) (condition : Condition) (expected : Value) : Bool :=
  ((valueAt? row condition.path).getD .null).looseEqual expected != condition.negated

def execute (q : RecordQuery) : Except QueryError (List Value) := do
  let expected ← q.select.conditions.mapM fun condition => q.operand condition.operand
  let conditions := q.select.conditions.zip expected
  let rows := q.rows.filter fun row => conditions.all fun (condition, expected) =>
    meets row condition expected
  return rows.map fun row => (valueAt? row q.select.projection).getD .null

def one (q : RecordQuery) : Except QueryError Value := do
  match ← q.execute with
  | [] => .error .noResult
  | [row] => return row
  | rows => .error (.nonUnique rows.length)

end RecordQuery

namespace RecordStore

def prepare (store : RecordStore) (select : Query.Select) (params : List Value) :
    Except QueryError RecordQuery :=
  match Table.get? store select.model with
  | some rows => .ok ⟨select, rows, Table.empty, params⟩
  | none => .error (.unknownModel select.model)

def create (store : RecordStore) (text : String) : Except QueryError RecordQuery := do
  store.prepare (← Query.Select.parse text) []

def describe (store : RecordStore) (query : Query) : Except QueryError RecordQuery := do
  store.prepare (← Query.Select.ofQuery query) query.params

def engine (store : RecordStore) : QueryEngine where
  Handle := RecordQuery
  create := store.create
  describe := store.describe
  bind := RecordQuery.bind
  one := RecordQuery.one
  all := RecordQuery.execute

end RecordStore

end ActionDispatch
