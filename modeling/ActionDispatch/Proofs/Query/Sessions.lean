import ActionDispatch.Proofs.Query.Answers

/-!
# Sessions with the record store

A store in use, with the query that was prepared last. What a session has come to is read off the
log of its operations: the rows are those of the insertions, and the current query is answered from
the rows that were there when it was prepared, with the parameters bound since then.
-/

set_option autoImplicit false

namespace ActionDispatch
open Query

inductive Operation where
  | insert (model : String) (row : Value)
  | count (model : String)
  | create (text : String)
  | describe (query : Query)
  | bind (scope : Table Value) (params : List Value)
  | one
  | all

inductive Answer where
  | done
  | skipped
  | counted (rows : Nat)
  | found (value : Value)
  | listed (values : List Value)
  | failed (error : QueryError)

def Answer.ofOne : Except QueryError Value → Answer
  | .ok value => .found value
  | .error error => .failed error

def Answer.ofAll : Except QueryError (List Value) → Answer
  | .ok values => .listed values
  | .error error => .failed error

structure Session where
  store : RecordStore
  handle : Option RecordQuery

namespace Session

def prepare (s : Session) : Except QueryError RecordQuery → Session × Answer
  | .ok q => ({ s with handle := some q }, .done)
  | .error error => (s, .failed error)

def ask (s : Session) (question : RecordQuery → Answer) : Answer :=
  (s.handle.map question).getD .skipped

def step (s : Session) : Operation → Session × Answer
  | .insert model row => ({ s with store := s.store.insert model row }, .done)
  | .count model => (s, .counted (s.store.count model))
  | .create text => s.prepare (s.store.create text)
  | .describe query => s.prepare (s.store.describe query)
  | .bind scope params =>
    ({ s with handle := s.handle.map (·.bind scope params) }, s.ask fun _ => .done)
  | .one => (s, s.ask fun q => .ofOne q.one)
  | .all => (s, s.ask fun q => .ofAll q.execute)

def after (log : List Operation) : Session :=
  log.foldl (fun s op => (s.step op).1) ⟨Table.empty, none⟩

def answer (log : List Operation) (op : Operation) : Answer := ((after log).step op).2

theorem after_concat (log : List Operation) (op : Operation) :
    after (log ++ [op]) = ((after log).step op).1 := by
  rw [after, List.foldl_append]
  rfl

end Session

namespace Operation

def inserted? : Operation → Option (String × Value)
  | .insert model row => some (model, row)
  | _ => none

def bound? : Operation → Option (Table Value × List Value)
  | .bind scope params => some (scope, params)
  | _ => none

def query? : Operation → Option (Except QueryError (Select × List Value))
  | .create text => some ((Select.parse text).map (·, []))
  | .describe query => some ((Select.ofQuery query).map (·, query.params))
  | _ => none

end Operation

namespace Session

def inserts (log : List Operation) : List (String × Value) := log.filterMap Operation.inserted?

def binds (log : List Operation) : List (Table Value × List Value) := log.filterMap Operation.bound?

def lastScope (log : List Operation) : Table Value :=
  ((binds log).getLast?.map Prod.fst).getD Table.empty

/-- The last parameters bound of those lists that have some, or else the query's own. -/
def lastParams (own : List Value) (log : List Operation) : List Value :=
  (((binds log).map Prod.snd).filter (!·.isEmpty)).getLast?.getD own

structure Prepares (log : List Operation) (op : Operation) (q : Select)
    (own : List Value) : Prop where
  query : op.query? = some (.ok (q, own))
  known : ∃ row, (q.model, row) ∈ inserts log

def Idle (before : List Operation) : List Operation → Prop
  | [] => True
  | op :: log => (∀ q own, ¬Prepares before op q own) ∧ Idle (before ++ [op]) log

variable {log before since : List Operation} {op : Operation} {q : Select} {own : List Value}

theorem inserts_concat (log : List Operation) (op : Operation) :
    inserts (log ++ [op]) = inserts log ++ op.inserted?.toList := by
  rw [inserts, List.filterMap_append, ← inserts]
  cases op <;> rfl

theorem binds_concat (log : List Operation) (op : Operation) :
    binds (log ++ [op]) = binds log ++ op.bound?.toList := by
  rw [binds, List.filterMap_append, ← binds]
  cases op <;> rfl

theorem lastScope_bind (scope : Table Value) (params : List Value) :
    lastScope (log ++ [.bind scope params]) = scope := by
  simp [lastScope, binds_concat, Operation.bound?]

theorem lastParams_bind (own : List Value) (scope : Table Value) (params : List Value) :
    lastParams own (log ++ [.bind scope params]) =
      if params.isEmpty then lastParams own log else params := by
  cases params <;> simp [lastParams, binds_concat, Operation.bound?]

theorem binds_unbound (h : op.bound? = none) : binds (log ++ [op]) = binds log := by
  simp [binds_concat, h]

theorem idle_concat (h : Idle before (log ++ [op])) :
    Idle before log ∧ ∀ q own, ¬Prepares (before ++ log) op q own := by
  induction log generalizing before with
  | nil =>
    rw [List.append_nil]
    exact ⟨trivial, h.1⟩
  | cons x log ih =>
    obtain ⟨hlog, hop⟩ := ih h.2
    rw [List.append_assoc, List.singleton_append] at hop
    exact ⟨⟨h.1, hlog⟩, hop⟩

theorem store_after (log : List Operation) : (after log).store = .ofInserts (inserts log) := by
  induction log using List.reverseRecOn with
  | nil => rfl
  | append_singleton log op ih =>
    have hstep : ((after log).step op).1.store =
        op.inserted?.toList.foldl (fun store row => store.insert row.1 row.2)
          (after log).store := by
      cases op with
      | create text => rw [step]; cases (after log).store.create text <;> rfl
      | describe query => rw [step]; cases (after log).store.describe query <;> rfl
      | insert | count | bind | one | all => rfl
    rw [after_concat, hstep, ih, inserts_concat, RecordStore.ofInserts, RecordStore.ofInserts,
      List.foldl_append]

theorem rows_after (log : List Operation) (model : String) :
    (after log).store.rows model = RecordStore.insertedRows model (inserts log) := by
  rw [store_after, RecordStore.rows, RecordStore.ofInserts, RecordStore.get?_inserts]
  cases RecordStore.insertedRows model (inserts log) <;> rfl

theorem known_after (log : List Operation) (model : String) :
    Table.get? (after log).store model =
      if RecordStore.insertedRows model (inserts log) = [] then none
      else some (RecordStore.insertedRows model (inserts log)) := by
  rw [store_after, RecordStore.ofInserts, RecordStore.get?_inserts]
  cases RecordStore.insertedRows model (inserts log) <;> rfl

theorem inserted_rows {model : String} {entries : List (String × Value)} :
    RecordStore.insertedRows model entries = [] ↔ ∀ row, (model, row) ∉ entries := by
  simp only [RecordStore.insertedRows, List.filterMap_eq_nil_iff, ite_eq_right_iff, reduceCtorEq,
    imp_false, Prod.forall]
  exact ⟨fun h row hrow => h model row hrow rfl, fun h m row hrow hm => h row (hm ▸ hrow)⟩

/-- A stored record has the fields of the inserted one, and names its entity type. -/
theorem record_stored {model : String} {fields : List (String × Value)}
    (h : .map fields ∈ (after log).store.rows model) :
    ∃ given, (model, .map given) ∈ inserts log ∧
      fields.lookup Value.modelKey = some ((given.lookup Value.modelKey).getD (.string model)) ∧
      ∀ name, name ≠ Value.modelKey → fields.lookup name = given.lookup name := by
  rw [rows_after, RecordStore.insertedRows, List.mem_filterMap] at h
  obtain ⟨⟨m, row⟩, hrow, htagged⟩ := h
  obtain ⟨rfl, htagged⟩ := Option.ite_none_right_eq_some.mp htagged
  cases row with
  | map given =>
    refine ⟨given, hrow, ?_⟩
    simp only [RecordStore.tagged, Option.some.injEq] at htagged
    split at htagged
    next hown =>
      cases htagged
      obtain ⟨own, hown⟩ := Option.isSome_iff_exists.mp hown
      simp [hown]
    next hnone =>
      cases htagged
      have hinsert := Table.get?_insert given Value.modelKey (.string m)
      refine ⟨(hinsert _).trans ?_, fun name hname => (hinsert _).trans (if_neg hname)⟩
      rw [if_pos rfl, Option.not_isSome_iff_eq_none.mp hnone, Option.getD_none]
  | null | bool | int | float | string | list | query => cases htagged

theorem step_query {r : Except QueryError (Select × List Value)} (hq : op.query? = some r)
    (s : Session) : s.step op = s.prepare (r.bind fun (q, own) => s.store.prepare q own) := by
  cases op with
  | create text =>
    obtain rfl := Option.some.inj hq
    rw [step, RecordStore.create]
    cases Select.parse text <;> rfl
  | describe query =>
    obtain rfl := Option.some.inj hq
    rw [step, RecordStore.describe]
    cases Select.ofQuery query <;> rfl
  | insert | count | bind | one | all => cases hq

theorem step_malformed {e : QueryError} (hq : op.query? = some (.error e)) (s : Session) :
    s.step op = (s, .failed e) :=
  step_query hq s

theorem prepare_after (log : List Operation) (q : Select) (own : List Value) :
    (after log).store.prepare q own =
      if RecordStore.insertedRows q.model (inserts log) = [] then .error (.unknownModel q.model)
      else .ok ⟨q, RecordStore.insertedRows q.model (inserts log), Table.empty, own⟩ := by
  rw [RecordStore.prepare, known_after]
  by_cases hrows : RecordStore.insertedRows q.model (inserts log) = []
  · rw [if_pos hrows, if_pos hrows]
  · rw [if_neg hrows, if_neg hrows]

theorem step_prepares (h : Prepares log op q own) :
    (after log).step op =
      ({ after log with
          handle := some ⟨q, RecordStore.insertedRows q.model (inserts log), Table.empty, own⟩ },
        .done) := by
  obtain ⟨row, hrow⟩ := h.known
  have hne : RecordStore.insertedRows q.model (inserts log) ≠ [] :=
    fun hnil => inserted_rows.mp hnil row hrow
  have hstore := prepare_after log q own
  rw [if_neg hne] at hstore
  exact (step_query h.query _).trans (congrArg (after log).prepare hstore)

theorem step_unknown (hq : op.query? = some (.ok (q, own)))
    (hno : ∀ row, (q.model, row) ∉ inserts log) :
    (after log).step op = (after log, .failed (.unknownModel q.model)) := by
  have hstore := prepare_after log q own
  rw [if_pos (inserted_rows.mpr hno)] at hstore
  exact (step_query hq _).trans (congrArg (after log).prepare hstore)

/-- What prepares no query and binds nothing leaves the current query as it is. -/
theorem step_idle (hno : ∀ q own, ¬Prepares log op q own) (hbound : op.bound? = none) :
    ((after log).step op).1.handle = (after log).handle := by
  cases hop : op.query? with
  | none =>
    cases op with
    | bind => cases hbound
    | create | describe => cases hop
    | insert | count | one | all => rfl
  | some r =>
    rcases r with e | ⟨q, own⟩
    · rw [step_malformed hop]
    · rw [step_unknown hop fun row hrow => hno q own ⟨hop, row, hrow⟩]

theorem handle_none (h : Idle [] log) : (after log).handle = none := by
  induction log using List.reverseRecOn with
  | nil => rfl
  | append_singleton log op ih =>
    obtain ⟨hlog, hop⟩ := idle_concat h
    rw [List.nil_append] at hop
    rw [after_concat]
    cases hbound : op.bound? with
    | none => rw [step_idle hop hbound, ih hlog]
    | some bound =>
      cases op with
      | bind => rw [step, ih hlog]; rfl
      | insert | count | create | describe | one | all => cases hbound

/-- The current query is the one prepared last, on the rows of that time. -/
theorem handle_after (h : Prepares before op q own) (hidle : Idle (before ++ [op]) since) :
    (after (before ++ op :: since)).handle =
      some ⟨q, RecordStore.insertedRows q.model (inserts before), lastScope since,
        lastParams own since⟩ := by
  induction since using List.reverseRecOn with
  | nil =>
    rw [after_concat, step_prepares h]
    rfl
  | append_singleton since x ih =>
    obtain ⟨hsince, hx⟩ := idle_concat hidle
    have hlog : before ++ op :: (since ++ [x]) = (before ++ op :: since) ++ [x] := by simp
    rw [hlog, after_concat]
    cases hbound : x.bound? with
    | none =>
      have hx : ∀ q own, ¬Prepares (before ++ op :: since) x q own := by simpa using hx
      rw [step_idle hx hbound, ih hsince, lastScope, lastScope, lastParams, lastParams,
        binds_unbound hbound]
    | some bound =>
      cases x with
      | bind scope params =>
        rw [step, ih hsince, lastScope_bind, lastParams_bind]
        rfl
      | insert | count | create | describe | one | all => cases hbound

/-- The queries that are asked are those that the current query asks of its rows. -/
theorem answer_handle {rows : List Value} {scope : Table Value} {params : List Value}
    (h : (after log).handle = some ⟨q, rows, scope, params⟩) :
    answer log .all = .ofAll (q.answer scope params rows) ∧
      answer log .one = .ofOne (q.answer scope params rows >>= single) := by
  simp [answer, step, ask, h, RecordQuery.one_single, RecordQuery.execute_answer]

theorem step_failed {e : QueryError} (h : answer log op = .failed e) :
    ((after log).step op).1 = after log := by
  cases hop : op.query? with
  | none =>
    cases op with
    | insert | count => cases h
    | bind =>
      cases hhandle : (after log).handle <;> simp [answer, step, ask, hhandle] at h
    | create | describe => cases hop
    | one | all => rfl
  | some r =>
    rcases r with e | ⟨q, own⟩
    · rw [step_malformed hop]
    · by_cases hknown : ∃ row, (q.model, row) ∈ inserts log
      · rw [answer, step_prepares ⟨hop, hknown⟩] at h
        cases h
      · rw [step_unknown hop (not_exists.mp hknown)]

structure Follows (log : List Operation) : Prop where
  /-- The rows of a model are counted as often as one was inserted. -/
  counted : ∀ model, answer log (.count model) =
    .counted ((inserts log).countP fun entry => entry.1 = model)
  /-- A stored record is an inserted one, with the type that it names or else that of its model. -/
  tagged : ∀ model fields, .map fields ∈ (after log).store.rows model →
    ∃ given, (model, .map given) ∈ inserts log ∧
      fields.lookup Value.modelKey = some ((given.lookup Value.modelKey).getD (.string model)) ∧
      ∀ name, name ≠ Value.modelKey → fields.lookup name = given.lookup name
  /-- A well-formed query is prepared just where its model has a row, and its model is unknown just
  where it has none. -/
  known : ∀ op q own, op.query? = some (.ok (q, own)) →
    (answer log op = .failed (.unknownModel q.model) ↔ ∀ row, (q.model, row) ∉ inserts log) ∧
      (answer log op = .done ↔ ∃ row, (q.model, row) ∈ inserts log)
  malformed : ∀ op e, op.query? = some (.error e) → answer log op = .failed e
  /-- What fails changes neither the store nor the current query. -/
  kept : ∀ op e, answer log op = .failed e → ((after log).step op).1 = after log
  /-- Where no query was prepared there is none to ask. -/
  skipped : Idle [] log → answer log .all = .skipped ∧ answer log .one = .skipped
  /-- The query prepared last is answered from the rows of that time, the scope bound last since
  then, and the last parameters bound since then, or its own. -/
  answered : ∀ before op since q own, log = before ++ op :: since → Prepares before op q own →
    Idle (before ++ [op]) since →
    let rows := RecordStore.insertedRows q.model (inserts before)
    let result := q.answer (lastScope since) (lastParams own since) rows
    answer log .all = .ofAll result ∧ answer log .one = .ofOne (result >>= single)

theorem rows_counted (model : String) (entries : List (String × Value)) :
    (RecordStore.insertedRows model entries).length =
      entries.countP fun entry => entry.1 = model := by
  induction entries with
  | nil => rfl
  | cons entry entries ih =>
    rw [List.countP_cons, ← ih, RecordStore.insertedRows, List.filterMap_cons]
    by_cases hm : entry.1 = model
    · simp [hm, RecordStore.insertedRows]
    · simp [hm, RecordStore.insertedRows]

/-- Every session follows its log. -/
theorem session_follows_log (log : List Operation) : Follows log where
  counted model := by
    rw [← rows_counted, ← rows_after]
    rfl
  tagged _ _ h := record_stored h
  known op q own hq := by
    by_cases hrow : ∃ row, (q.model, row) ∈ inserts log
    · have hstep := congrArg Prod.snd (step_prepares ⟨hq, hrow⟩)
      simpa [answer, hstep] using hrow
    · have hstep := congrArg Prod.snd (step_unknown hq (not_exists.mp hrow))
      simpa [answer, hstep] using hrow
  malformed _ _ hq := congrArg Prod.snd (step_malformed hq _)
  kept _ _ h := step_failed h
  skipped hidle := by simp [answer, step, ask, handle_none hidle]
  answered := by
    rintro before op since q own rfl hprepares hidle
    exact answer_handle (handle_after hprepares hidle)

theorem session_follows_log_rebound :
    let draft : Value := .map [("state", .string "draft")]
    let kept : Value := .map [("_model", .string "Order"), ("state", .string "draft")]
    let log : List Operation := [.insert "Order" draft, .insert "Item" draft,
      .describe ⟨"Order", some "self.state = ?1", [.string "open"]⟩, .bind [] [.string "draft"],
      .insert "Order" draft, .describe ⟨"Part", none, []⟩, .bind [] []]
    answer log (.describe ⟨"Part", none, []⟩) = .failed (.unknownModel "Part") ∧
      answer log (.count "Order") = .counted 2 ∧ answer log .all = .listed [kept] ∧
      answer log .one = .found kept := by
  intro draft kept log
  let q : Select := ⟨"Order", [], [⟨["state"], false, .positional 1⟩]⟩
  have hstate : FieldPath ["state"] := by decide
  have hspelled : Condition.Spelled defaultName ⟨["state"], false, .positional 1⟩
      "self.state = ?1".toList :=
    .intro (w := [' ']) (v := [' ']) hstate (by decide) (by decide)
      (.positional (by decide) (by decide))
  have hread : Select.ofQuery ⟨"Order", some "self.state = ?1", [.string "open"]⟩ = .ok q := by
    have htrim : Text.trim "self.state = ?1".toList = "self.state = ?1".toList := by decide
    have hconditions := conjunction_read (by decide) (.one hspelled)
    simp only [Select.ofQuery, Option.getD_some, htrim, hconditions]
    rfl
  have hpart : (Operation.describe ⟨"Part", none, []⟩).query? = some (.ok (⟨"Part", [], []⟩, [])) :=
    rfl
  have hfollows := session_follows_log log
  have hprepares :
      Prepares (log.take 2) (.describe ⟨"Order", some "self.state = ?1", [.string "open"]⟩)
      q [.string "open"] := by
    refine ⟨?_, draft, .head _⟩
    rw [Operation.query?, hread]
    rfl
  have hidle : Idle (log.take 3) (log.drop 3) := by
    refine ⟨nofun, nofun, ?_, nofun, trivial⟩
    rintro q own ⟨hq, row, hrow⟩
    obtain ⟨rfl, rfl⟩ := Prod.mk.inj (Except.ok.inj (Option.some.inj (hpart.symm.trans hq)))
    simp [inserts, Operation.inserted?, log] at hrow
  have hunknown : ∀ row, ("Part", row) ∉ inserts log := by
    simp [inserts, Operation.inserted?, log]
  obtain ⟨hall, hone⟩ := hfollows.answered _ _ _ _ _ rfl hprepares hidle
  exact ⟨(hfollows.known _ _ _ hpart).1.mpr hunknown, hfollows.counted "Order", hall, hone⟩

end Session

end ActionDispatch
