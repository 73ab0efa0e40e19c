import ActionDispatch.Proofs.Handler.Selects
import ActionDispatch.Proofs.Table

/-!
# Records that hide the handler

An expression with a prefix for queries is a script that calls the handler by the name `__me__`. The
fields of the record are bound in the same scope. No field but one can come between the expression
and its query: where the record has a field `__me__`, the call is made on the value of that field,
and the query is never asked for.
-/

set_option autoImplicit false

namespace ActionDispatch

open Text

def Request.without (request : Request) (field : String) : Request :=
  { request with data := request.data.map (List.filter fun (name, _) => name ≠ field) }

def Request.valuesOf (request : Request) (field : String) : List Value :=
  ((request.data.getD Table.empty).filter fun (name, _) => name = field).map Prod.snd

theorem Request.mem_valuesOf {request : Request} {field : String} {value : Value} :
    value ∈ request.valuesOf field ↔ (field, value) ∈ (Context.ofRequest request).fields := by
  simp [valuesOf, Context.ofRequest]

theorem Request.without_absent {request : Request} {field : String}
    (h : request.valuesOf field = []) : request.without field = request := by
  have hnone : ∀ value, (field, value) ∉ request.data.getD Table.empty := by
    intro value hmem
    have hvalue := mem_valuesOf.mpr hmem
    rw [h] at hvalue
    cases hvalue
  obtain ⟨action, model, data⟩ := request
  cases data with
  | none => rfl
  | some fields =>
    have hkept : fields.filter (fun (name, _) => name ≠ field) = fields := by
      rw [List.filter_eq_self]
      rintro ⟨name, value⟩ hmem
      refine decide_eq_true ?_
      rintro rfl
      exact hnone value hmem
    simp only [without, Option.map_some, hkept]

theorem Request.valuesOf_without (request : Request) (field : String) :
    (request.without field).valuesOf field = [] := by
  rw [List.eq_nil_iff_forall_not_mem]
  intro value hvalue
  obtain ⟨action, model, data⟩ := request
  cases data <;> simp [without, valuesOf, Table.empty] at hvalue

/-- Of the names in a scope only the entity type and the record as a whole are not fields. -/
theorem Context.get?_bindings (context : Context) {name : String} (hm : name ≠ Value.modelKey)
    (hs : name ≠ selfName) :
    Table.get? context.bindings name = Table.get? (Table.ofList context.fields) name := by
  simp only [bindings]
  rw [Table.get?_insert, if_neg hs]
  cases context.model with
  | none => rfl
  | some model => rw [Table.get?_insert, if_neg hm]; rfl

namespace Handler

/-- `__me__` is bound to one of the values that the record has under this name, if it has any. -/
theorem me_bound (services : Services) (request : Request) :
    (request.valuesOf selfCallName = [] ∧
        (ofRequest services request).bindings.get? selfCallName = none) ∨
      ∃ value ∈ request.valuesOf selfCallName,
        (ofRequest services request).bindings.get? selfCallName = some value := by
  have hget : (ofRequest services request).bindings.get? selfCallName =
      Table.get? (Table.ofList (Context.ofRequest request).fields) selfCallName :=
    Context.get?_bindings _ (by decide) (by decide)
  cases hfound : Table.get? (Table.ofList (Context.ofRequest request).fields) selfCallName with
  | none =>
    obtain ⟨-, hnone⟩ := Table.get?_insertAll_none.mp hfound
    refine .inl ⟨?_, hget.trans hfound⟩
    rw [List.eq_nil_iff_forall_not_mem]
    exact fun value hvalue => hnone value (Request.mem_valuesOf.mp hvalue)
  | some value =>
    obtain hempty | hmem := Table.mem_of_get?_insertAll hfound
    · cases hempty
    · exact .inr ⟨value, Request.mem_valuesOf.mpr hmem, hget.trans hfound⟩

def hiddenBy (value : Value) (method : String) : ScriptError :=
  if value.isNull then .nullReference method else .unknownMethod value.typeName method

def queryMethods : List String := ["selectOne", "selectAll"]

variable {h : Handler} {fuel : Nat} {text method body : String} {value : Value}

theorem value_has_no_query (hm : method ∈ queryMethods) (text : String) :
    Script.builtin? value method [.string text] = none := by
  obtain rfl | rfl : method = "selectOne" ∨ method = "selectAll" := by simpa [queryMethods] using hm
  · rfl
  · rfl

theorem invokeMethod_query {nested : Nested} {search : Search} {depth : Nat}
    (hm : method ∈ queryMethods) (args : List Value) :
    (h.host nested search depth).invokeMethod value method args =
      .fail (.unknownMethod value.typeName method) := by
  have hfilter : method ≠ "filter" := by
    rintro rfl
    exact absurd hm (by decide)
  simp only [host]
  split
  next => exact absurd rfl hfilter
  next => rfl

/-- Where `__me__` is bound to a value, a prefix for queries asks for nothing and fails. -/
theorem hidden_fails (hme : h.bindings.get? selfCallName = some value) (hm : method ∈ queryMethods)
    (hc : CallsOnBody (Expression.parse text) method body) :
    h.evaluate (fuel + 1) text =
      ⟨[.dispatched (Expression.parse text) 0], .failed (.script (hiddenBy value method))⟩ := by
  obtain ⟨script, hs, hp⟩ := hc
  have hbound : (Script.Expr.name selfCallName).staticPath? h.bindings = none := by
    simp [Script.Expr.staticPath?, Table.contains, hme]
  have hargs : Script.evalAll h.bindings (h.host (h.evaluateAt fuel) (h.searchAt fuel) 0)
      [.literal (.string (strip body))] = pure [.string (strip body)] := rfl
  have hcall : h.script (h.evaluateAt fuel) (h.searchAt fuel) script 0 =
      .fail (.script (hiddenBy value method)) := by
    rw [Handler.script, Script.evaluate_parsed hp]
    simp only [Script.Expr.eval, hbound, hme, Option.getD_some, Run.pure_bind, hiddenBy]
    split
    · rfl
    · simp only [hargs, Run.pure_bind, Script.invokeOn, value_has_no_query hm,
        invokeMethod_query hm]
      rfl
  rw [evaluate, evaluateAt_script fuel 0 hs, hcall]
  rfl

def isPlain (c : Char) : Bool :=
  isAlphanumeric c || c = ' ' || c = '.' || c = '=' || c = ':'

theorem plain_passes (hb : ∀ c ∈ body.toList, isPlain c = true) : Passes body := by
  have hno : ∀ c : Char, isPlain c = false → c ∉ body.toList := by
    intro c hc hmem
    rw [hb c hmem] at hc
    cases hc
  have hstrip : ∀ c : Char, isPlain c = false → c ∉ (strip body).toList :=
    fun c hc hmem => hno c hc ((strip_within body).subset hmem)
  have hquote : '"' ∉ (strip body).toList := hstrip '"' (by decide)
  have hmark : '\'' ∉ (strip body).toList := hstrip '\'' (by decide)
  refine ⟨hno '\n' (by decide), ?_, ?_, ?_, ?_⟩
  · intro hhead
    exact hstrip '(' (by decide) (List.mem_of_mem_head? hhead)
  · rw [← Bool.not_eq_true]
    intro hquoted
    unfold Expression.isQuoted at hquoted
    split at hquoted
    next => cases hquoted
    next => cases hquoted
    next first rest _ htext =>
      have hfirst : first ∈ (strip body).toList := htext ▸ List.mem_cons_self
      simp only [Bool.and_eq_true, Bool.or_eq_true, decide_eq_true_eq] at hquoted
      obtain ⟨-, rfl | rfl⟩ := hquoted
      · exact hquote hfirst
      · exact hmark hfirst
  · exact fun hthree => hquote (hthree.subset (by decide))
  · exact fun hlast => hquote (List.mem_of_mem_getLast? hlast)

/-- How the run of an expression on a record compares with the run on the record without one field,
of which the record has some values: the latter does what the query does, and the former too if
there are no values; else it asks for nothing and fails on one of them. -/
structure Hides (values : List Value) (run bare : Evaluation Result) (e : Expression)
    (method : String) (direct : Evaluation Value) : Prop where
  direct : Forwards bare e direct
  absent : values = [] → run = bare
  present : values ≠ [] → ∃ value ∈ values,
    run = ⟨[.dispatched e 0], .failed (.script (hiddenBy value method))⟩
  agrees : run.outcome = bare.outcome ↔ values = []

theorem Forwards.ne_hidden {run : Evaluation Result} {e : Expression} {direct : Evaluation Value}
    (hf : Forwards run e direct) (hends : direct.Ends) (value : Value) (method : String) :
    run.outcome ≠ .failed (.script (hiddenBy value method)) := by
  intro ho
  cases hd : direct.outcome with
  | done v =>
    rw [(hf.value _).mpr ⟨v, hd, rfl⟩] at ho
    cases ho
  | failed error =>
    rw [hf.failure error hd] at ho
    simp only [hiddenBy] at ho
    split at ho <;> cases ho
  | unfinished => exact hends hd

theorem called_hides {services : Services} {request : Request} (hm : method ∈ queryMethods)
    (hc : CallsOnBody (Expression.parse text) method body) {direct : Evaluation Value}
    (hf : Forwards ((ofRequest services (request.without selfCallName)).evaluate (fuel + 1) text)
      (Expression.parse text) direct) (hends : direct.Ends) :
    Hides (request.valuesOf selfCallName) ((ofRequest services request).evaluate (fuel + 1) text)
      ((ofRequest services (request.without selfCallName)).evaluate (fuel + 1) text)
      (Expression.parse text) method direct := by
  have habsent : request.valuesOf selfCallName = [] →
      (ofRequest services request).evaluate (fuel + 1) text =
        (ofRequest services (request.without selfCallName)).evaluate (fuel + 1) text :=
    fun hnone => by rw [Request.without_absent hnone]
  have hpresent : request.valuesOf selfCallName ≠ [] → ∃ value ∈ request.valuesOf selfCallName,
      (ofRequest services request).evaluate (fuel + 1) text =
        ⟨[.dispatched (Expression.parse text) 0], .failed (.script (hiddenBy value method))⟩ := by
    intro hsome
    obtain ⟨hnone, -⟩ | ⟨value, hvalue, hget⟩ := me_bound services request
    · exact absurd hnone hsome
    · exact ⟨value, hvalue, hidden_fails hget hm hc⟩
  refine ⟨hf, habsent, hpresent, fun heq => ?_, fun hnone => congrArg _ (habsent hnone)⟩
  by_contra hsome
  obtain ⟨value, -, hrun⟩ := hpresent hsome
  rw [hrun] at heq
  exact hf.ne_hidden hends value method heq.symm

/-- No field of a record but `__me__` comes between a prefix for queries and the query. The
expression does the same as on the record without this field, which is what the query does, just
where the record has no such field; where it has one, no query is asked for. -/
theorem record_hides_handler (services : Services) (request : Request) (fuel : Nat) {body : String}
    (hb : Passes body) :
    let run (request : Request) (text : String) :=
      (ofRequest services request).evaluate (fuel + 1) text
    let bare := request.without selfCallName
    Hides (request.valuesOf selfCallName) (run request ("select: " ++ body))
        (run bare ("select: " ++ body)) (Expression.parse ("select: " ++ body)) "selectOne"
        ((ofRequest services bare).selectOne (strip body) []) ∧
      Hides (request.valuesOf selfCallName) (run request ("select[]: " ++ body))
        (run bare ("select[]: " ++ body)) (Expression.parse ("select[]: " ++ body)) "selectAll"
        ((ofRequest services bare).selectAll (strip body) []) := by
  intro run bare
  have hme : (ofRequest services bare).bindings.contains selfCallName = false := by
    obtain ⟨-, hget⟩ | ⟨value, hvalue, -⟩ := me_bound services bare
    · simp [Table.contains, hget]
    · rw [request.valuesOf_without] at hvalue
      cases hvalue
  have hone := (ofRequest services bare).prefixed_select
  have hall := (ofRequest services bare).prefixed_selectAll
  exact ⟨called_hides (by decide) (hone.calls hb) (hone.forwards hme hb) (hone.ends _),
    called_hides (by decide) (hall.calls hb) (hall.forwards hme hb) (hall.ends _)⟩

def ofHidingRecord : Request :=
  ⟨none, some "Order", some [("__me__", .int 1), ("code", .string "A1")]⟩

theorem record_hides_handler_code :
    (ofRequest ofOneOrder.services ofHidingRecord).evaluate 1
        ("select: " ++ "self.code FROM Order self")
      = ⟨[.dispatched ⟨.selectOne, "self.code FROM Order self"⟩ 0],
          .failed (.script (.unknownMethod "integer" "selectOne"))⟩ := by
  have hbody : ∀ c ∈ "self.code FROM Order self".toList, isPlain c = true :=
    List.all_eq_true.mp (by decide)
  obtain ⟨value, hvalue, hrun⟩ :=
    (record_hides_handler ofOneOrder.services ofHidingRecord 0
      (plain_passes hbody)).1.present (by decide)
  obtain rfl : value = .int 1 := List.mem_singleton.mp hvalue
  exact hrun

/-- With a field `__me__` in the record an order is not found that is found without it. -/
theorem hidden_handler_not_asked :
    ((ofRequest ofOneOrder.services ofHidingRecord).evaluate 1
      "select: self.code FROM Order self").outcome =
        .failed (.script (.unknownMethod "integer" "selectOne")) ∧
      ((ofRequest ofOneOrder.services (ofHidingRecord.without selfCallName)).evaluate 1
        "select: self.code FROM Order self").outcome = .done (.value (.string "A1")) := by
  have htext : "select: self.code FROM Order self" = "select: " ++ "self.code FROM Order self" := by
    decide
  have hbody : Passes "self.code FROM Order self" :=
    plain_passes (List.all_eq_true.mp (by decide))
  have hbound : (ofRequest ofOneOrder.services ofHidingRecord).bindings.get? selfCallName =
      some (.int 1) := by rfl
  have hfree :
      (ofRequest ofOneOrder.services (ofHidingRecord.without selfCallName)).bindings.contains
      selfCallName = false := by decide
  rw [htext]
  refine ⟨?_, (((prefixed_select _).forwards hfree hbody).value _).mpr ⟨.string "A1", by rfl, rfl⟩⟩
  rw [hidden_fails hbound (by decide) (ofOneOrder.prefixed_select.calls hbody)]
  rfl

end Handler

end ActionDispatch
