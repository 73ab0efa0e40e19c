import ActionDispatch.Proofs.Query.Dialect
import ActionDispatch.Proofs.Table
import ActionDispatch.Query.Store

/-!
# Answers of the record store

A query asks for the rows of one model that meet all of its conditions, in the order in which they
were inserted, each projected. Where a condition compares with a parameter that is not supplied, the
first of these parameters is missing, whatever the rows are.
-/

set_option autoImplicit false

namespace ActionDispatch

namespace RecordStore

def rows (store : RecordStore) (model : String) : List Value :=
  (Table.get? store model).getD []

def ofInserts (inserts : List (String × Value)) : RecordStore :=
  inserts.foldl (fun store (model, row) => insert store model row) Table.empty

def insertedRows (model : String) (inserts : List (String × Value)) : List Value :=
  inserts.filterMap fun (m, row) => if m = model then some (tagged model row) else none

theorem get?_insert_row (store : RecordStore) (model : String) (row : Value) (name : String) :
    Table.get? (insert store model row) name =
      if name = model then some (store.rows model ++ [tagged model row])
      else Table.get? store name :=
  Table.get?_insert store model _ name

/-- A store knows the models that rows were inserted under, and has their rows in that order. -/
theorem get?_inserts (store : RecordStore) (inserts : List (String × Value)) (model : String) :
    Table.get? (inserts.foldl (fun store (model, row) => insert store model row) store) model =
      match insertedRows model inserts with
      | [] => Table.get? store model
      | row :: more => some (store.rows model ++ row :: more) := by
  induction inserts generalizing store with
  | nil => rfl
  | cons entry inserts ih =>
    obtain ⟨m, row⟩ := entry
    rw [List.foldl_cons, ih]
    by_cases hm : m = model
    · subst hm
      have hrows : insertedRows m ((m, row) :: inserts) =
          tagged m row :: insertedRows m inserts := by
        simp [insertedRows]
      have hget := get?_insert_row store m row m
      rw [if_pos rfl] at hget
      rw [hrows, rows, hget]
      cases insertedRows m inserts <;> simp
    · have hrows : insertedRows model ((m, row) :: inserts) = insertedRows model inserts := by
        simp [insertedRows, hm]
      have hget := get?_insert_row store m row model
      rw [if_neg (Ne.symm hm)] at hget
      rw [hrows, rows, rows, hget]

theorem get?_ofInserts {inserts : List (String × Value)} {model : String}
    (hrow : ∃ row, (model, row) ∈ inserts) :
    Table.get? (ofInserts inserts) model = some (insertedRows model inserts) := by
  obtain ⟨row, hmem⟩ := hrow
  have hmem' : tagged model row ∈ insertedRows model inserts :=
    List.mem_filterMap.mpr ⟨(model, row), hmem, by simp⟩
  rw [ofInserts, get?_inserts]
  cases hrows : insertedRows model inserts with
  | nil => simp [hrows] at hmem'
  | cons first more => rfl

end RecordStore

namespace Query

section

variable (scope : Table Value) (params : List Value)

def Operand.missing? : Operand → Option String
  | .literal _ => none
  | .named name => if scope.contains name then none else some (":" ++ name)
  | .positional k => if k - 1 < params.length then none else some ("?" ++ toString k)

def Operand.value : Operand → Value
  | .literal value => value
  | .named name => (scope.get? name).getD .null
  | .positional k => params.getD (k - 1) .null

def fieldAt (row : Value) (path : List String) : Value :=
  (RecordQuery.valueAt? row path).getD .null

def Condition.holds (row : Value) (c : Condition) : Bool :=
  (fieldAt row c.path).looseEqual (c.operand.value scope params) == !c.negated

def Select.answer (q : Select) (rows : List Value) : Except QueryError (List Value) :=
  match q.conditions.findSome? fun c => c.operand.missing? scope params with
  | some parameter => .error (.missingParameter parameter)
  | none =>
    .ok ((rows.filter fun row => q.conditions.all fun c => c.holds scope params row).map fun row =>
      fieldAt row q.projection)

end

def single : List Value → Except QueryError Value
  | [] => .error .noResult
  | [row] => .ok row
  | rows => .error (.nonUnique rows.length)

end Query

namespace RecordQuery
open Query

theorem operand_value (q : RecordQuery) (o : Operand) :
    q.operand o =
      match o.missing? q.named q.positional with
      | some parameter => .error (.missingParameter parameter)
      | none => .ok (o.value q.named q.positional) := by
  cases o with
  | literal => rfl
  | named name =>
    cases h : Table.get? q.named name with
    | none => simp [operand, Operand.missing?, Table.contains, h]
    | some value => simp [operand, Operand.missing?, Operand.value, Table.contains, h]
  | positional k =>
    by_cases hk : k - 1 < q.positional.length
    · simp [operand, Operand.missing?, Operand.value, hk]
    · simp [operand, Operand.missing?, hk]

theorem operands_value (q : RecordQuery) (cs : List Condition) :
    cs.mapM (fun c => q.operand c.operand) =
      match cs.findSome? fun c => c.operand.missing? q.named q.positional with
      | some parameter => .error (.missingParameter parameter)
      | none => .ok (cs.map fun c => c.operand.value q.named q.positional) := by
  induction cs with
  | nil => rfl
  | cons c cs ih =>
    rw [List.mapM_cons, operand_value, ih, List.findSome?_cons]
    cases c.operand.missing? q.named q.positional with
    | some parameter => rfl
    | none => cases cs.findSome? fun c => c.operand.missing? q.named q.positional <;> rfl

theorem execute_answer (q : RecordQuery) :
    q.execute = q.select.answer q.named q.positional q.rows := by
  rw [execute, operands_value, Select.answer]
  cases q.select.conditions.findSome? fun c => c.operand.missing? q.named q.positional with
  | some parameter => rfl
  | none =>
    have hmeets : ∀ row : Value,
        ((q.select.conditions.zip (q.select.conditions.map fun c =>
          c.operand.value q.named q.positional)).all fun x => meets row x.1 x.2) =
        q.select.conditions.all fun c => c.holds q.named q.positional row := by
      intro row
      induction q.select.conditions with
      | nil => rfl
      | cons c cs ih =>
        have hc : meets row c (c.operand.value q.named q.positional) =
            c.holds q.named q.positional row := by
          simp only [meets, Condition.holds, fieldAt]
          cases Value.looseEqual _ _ <;> cases c.negated <;> rfl
        simp [ih, hc]
    change Except.ok _ = Except.ok _
    simp only [hmeets]
    rfl

theorem one_single (q : RecordQuery) : q.one = q.execute >>= single := by
  rw [one]
  rcases q.execute with error | (_ | ⟨row, _ | ⟨next, rows⟩⟩) <;> rfl

end RecordQuery

namespace RecordStore
open Query

/-- A text of the dialect is accepted by a store with rows of its model, and is answered with the
rows that the query it spells asks for. -/
theorem spelled_query_answered {q : Select} {text : String} (htext : q.Spelled text.toList)
    {inserts : List (String × Value)} (hrow : ∃ row, (q.model, row) ∈ inserts)
    (scope : Table Value) (params : List Value) :
    ∃ handle, (ofInserts inserts).create text = .ok handle ∧
      (handle.bind scope params).execute =
        q.answer scope params (insertedRows q.model inserts) ∧
      (handle.bind scope params).one =
        q.answer scope params (insertedRows q.model inserts) >>= single := by
  refine ⟨⟨q, insertedRows q.model inserts, Table.empty, []⟩, ?_, ?_, ?_⟩
  · have hget := get?_ofInserts hrow
    rw [create, select_read htext]
    change prepare _ q [] = _
    rw [prepare, hget]
  all_goals
    have hparams : (if params.isEmpty then [] else params) = params := by cases params <;> rfl
    simp only [RecordQuery.one_single, RecordQuery.execute_answer, RecordQuery.bind, hparams]

theorem spelled_query_answered_order :
    ∃ handle, (ofInserts [("Order", .map [("code", .string "A"), ("state", .string "draft")]),
        ("Item", .null), ("Order", .map [("code", .string "B")])]).create
          "select self.code  FROM Order\nWhere self.state!=?1 AND self.code = :code " = .ok handle ∧
      (handle.bind [("code", .string "B")] [.string "draft"]).execute = .ok [.string "B"] ∧
      (handle.bind [("code", .string "B")] [.string "draft"]).one = .ok (.string "B") := by
  have hcode : FieldPath ["code"] := by decide
  have hstate : FieldPath ["state"] := by decide
  have hdraft : Condition.Spelled defaultName ⟨["state"], true, .positional 1⟩
      "self.state!=?1".toList :=
    .intro (w := []) (v := []) hstate (by decide) (by decide) (.positional (by decide) (by decide))
  have hnamed : Condition.Spelled defaultName ⟨["code"], false, .named "code"⟩
      "self.code = :code".toList :=
    .intro (w := [' ']) (v := [' ']) hcode (by decide) (by decide) (.named (by decide))
  have hspace : Gap [' '] := by decide
  have hline : Gap ['\n'] := by decide
  have hselect : Keyword "select" "select".toList := rfl
  have hfrom : Keyword "from" "FROM".toList := rfl
  have hwhere : Keyword "where" "Where".toList := rfl
  have hand : Keyword "and" "AND".toList := rfl
  have hmodel : IsPath "Order".toList := by decide
  have hboth := Conjunction.cons hdraft hspace hand hspace (.one hnamed)
  have hnone : Text.Blanks [] := by decide
  have htwo : Gap [' ', ' '] := by decide
  have hspelled : Select.Spelled ⟨"Order", ["code"], _⟩ _ :=
    .intro hnone hselect hspace (.inr hcode) htwo hfrom hspace hmodel .omitted
      (.given hline hwhere hspace hboth hspace.blanks)
  have htext : Select.Spelled _
      "select self.code  FROM Order\nWhere self.state!=?1 AND self.code = :code ".toList := hspelled
  have hrow : ∃ row, ("Order", row) ∈ [("Order", Value.map [("code", .string "A"),
      ("state", .string "draft")]), ("Item", .null), ("Order", .map [("code", .string "B")])] :=
    ⟨_, .head _⟩
  obtain ⟨handle, hcreate, hall, hone⟩ := spelled_query_answered htext hrow [("code", .string "B")]
    [.string "draft"]
  exact ⟨handle, hcreate, hall, hone⟩

end RecordStore

end ActionDispatch
