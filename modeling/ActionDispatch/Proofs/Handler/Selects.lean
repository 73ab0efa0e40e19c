import ActionDispatch.Application.Basic
import ActionDispatch.Proofs.Expression
import ActionDispatch.Proofs.Handler.Script
import ActionDispatch.Proofs.Handler.Simulation
import ActionDispatch.Proofs.Script.MethodCall

/-!
# Expressions that are queries

An expression with a prefix for queries does what the query does when the handler is asked for it
directly: the body comes through the script around it as it is, and a failure with its message
alone.
-/

set_option autoImplicit false

namespace ActionDispatch

open Text

namespace Handler

theorem prepare_ends (h : Handler) (query : String) (params : List Value) :
    (h.prepare query params).Ends := by
  refine (Run.ends_report _).bind fun _ => (Run.ends_ofExcept _).bind fun handle => ?_
  exact (Run.ends_report _).bind fun _ => Run.ends_pure _

theorem fetchAll_ends (h : Handler) (query : String) (params : List Value) :
    (h.fetchAll query params).Ends :=
  (h.prepare_ends query params).bind fun _ =>
    (Run.ends_report _).bind fun _ => Run.ends_ofExcept _

theorem selectOne_ends (h : Handler) (query : String) (params : List Value) :
    (h.selectOne query params).Ends := by
  unfold selectOne
  split
  · exact Run.ends_fail _
  · refine ((h.prepare_ends query params).mapError _).bind fun handle => ?_
    refine (Run.ends_report _).bind fun _ => ?_
    split
    · exact Run.ends_pure _
    · exact Run.ends_pure _
    · exact Run.ends_fail _

theorem selectAll_done (h : Handler) {query : String} (hq : isBlankText query.toList = false)
    (params : List Value) : ∃ v, (h.selectAll query params).outcome = .done v := by
  simp only [selectAll, hq, Bool.false_eq_true, if_false]
  exact (h.fetchAll_ends query params).settle _

theorem selectAll_ends (h : Handler) (query : String) (params : List Value) :
    (h.selectAll query params).Ends := by
  cases hq : isBlankText query.toList with
  | true =>
    simp only [selectAll, hq, if_true]
    exact Run.ends_fail _
  | false =>
    obtain ⟨v, hv⟩ := h.selectAll_done hq params
    simp [Run.Ends, hv]

end Handler

theorem trimLeft_space (s : List Char) : trimLeft (' ' :: s) = trimLeft s :=
  List.dropWhile_cons_of_pos (by decide)

theorem parse_prefixed {kind : Expression.Kind} {start body : String} (hkind : kind ≠ .literal)
    (hs : start.toList = kind.name.toList ++ [':', ' ']) (hline : '\n' ∉ body.toList) :
    Expression.parse (start ++ body) = ⟨kind, String.ofList (trimLeft body.toList)⟩ := by
  have htext : (start ++ body).toList = kind.name.toList ++ ':' :: ' ' :: body.toList := by
    simp [String.toList_append, hs]
  rw [Expression.parse_line hkind htext (by simpa using hline), trimLeft_space]

namespace Handler

/-- A run that takes up an expression and does with it what a query does. A failure of the query is
one of the script around it. -/
structure Forwards (run : Evaluation Result) (e : Expression) (direct : Evaluation Value) :
    Prop where
  events : run.events = .dispatched e 0 :: direct.events
  value : ∀ result, run.outcome = .done result ↔ ∃ v, direct.outcome = .done v ∧ result = .value v
  failure : ∀ error, direct.outcome = .failed error →
    run.outcome = .failed (.script (.host error.message))
  ends : run.Ends

/-- A failure of a query goes out of a script as a failure of its host. -/
theorem asked_failure {direct : Evaluation Value} {error : EvalError} (ha : Asks direct)
    (ho : direct.outcome = .failed error) :
    ((direct.mapError EvalError.toScript).mapError EvalError.ofScript).outcome =
      .failed (.script (.host error.message)) := by
  have hforeign : error.toScript = .host error.message := ha.failure error ho
  simp [Run.mapError, ho, hforeign, EvalError.ofScript]

theorem forwards_asked (e : Expression) {direct : Evaluation Value} (ha : Asks direct)
    (hends : direct.Ends) :
    Forwards (Run.report (.dispatched e 0) >>= fun _ =>
      (direct.mapError EvalError.toScript).mapError EvalError.ofScript >>= fun value =>
        pure (.value value)) e direct := by
  rw [Run.report_bind]
  cases ho : direct.outcome with
  | done v =>
    have hm : ((direct.mapError EvalError.toScript).mapError EvalError.ofScript).outcome =
        .done v := by
      simp [Run.mapError, ho]
    rw [Run.bind_of_done hm]
    refine ⟨congrArg _ (List.append_nil _), fun result => ?_, ?_, by intro h; cases h⟩
    · simp only [ho, Outcome.done.injEq, exists_eq_left']
      exact ⟨fun h => (Outcome.done.inj h).symm, fun h => h ▸ rfl⟩
    · simp [ho]
  | failed error =>
    rw [Run.bind_of_failed (asked_failure ha ho)]
    refine ⟨rfl, by simp [ho], fun error' hf => ?_, by intro h; cases h⟩
    rw [ho] at hf
    cases hf
    rfl
  | unfinished => exact absurd ho hends

/-- A body that comes through a script as it is: on one line, neither an argument list nor between
quotes of its own, and without quotes that end the string around it. -/
structure Passes (body : String) : Prop where
  line : '\n' ∉ body.toList
  unbracketed : (strip body).toList.head? ≠ some '('
  unquoted : Expression.isQuoted (strip body).toList = false
  quotable : ¬quotes <:+: (strip body).toList ∧ (strip body).toList.getLast? ≠ some '"'

variable {h : Handler} {fuel : Nat} {start text body method : String}

def CallsOnBody (e : Expression) (method body : String) : Prop :=
  ∃ script, e.script? = some script ∧ Script.parse script =
    .ok (.invoke (.name selfCallName) method [.literal (.string (strip body))] false)

theorem called_forwards {direct : Evaluation Value} (hme : h.bindings.contains selfCallName = false)
    (hc : CallsOnBody (Expression.parse text) method body)
    (hi : ∀ nested search, h.invoke nested search 0 method [.string (strip body)] = direct)
    (ha : Asks direct) (hends : direct.Ends) :
    Forwards (h.evaluate (fuel + 1) text) (Expression.parse text) direct := by
  obtain ⟨script, hs, hp⟩ := hc
  have hargs : Script.evalAll h.bindings (h.host (h.evaluateAt fuel) (h.searchAt fuel) 0)
      [.literal (.string (strip body))] = pure [.string (strip body)] := rfl
  rw [evaluate, evaluateAt_script fuel 0 hs, script_calls_handler hme hp hargs, hi]
  exact forwards_asked _ ha hends

/-- A prefix for queries: what it starts is a script that calls a method of the handler, and the
method does what the query does. -/
structure QueryPrefix (h : Handler) (start method : String) (direct : String → Evaluation Value) :
    Prop where
  kind : ∃ kind : Expression.Kind, kind ≠ .literal ∧ start.toList = kind.name.toList ++ [':', ' '] ∧
    ∀ b, (Expression.mk kind b).script? =
      some (Expression.asCall (".".intercalate [selfCallName, method]) b)
  named : Script.isName method.toList = true
  invoked : ∀ nested search query, h.invoke nested search 0 method [.string query] = direct query
  asks : ∀ query, Asks (direct query)
  ends : ∀ query, (direct query).Ends

theorem prefixed_select (h : Handler) :
    h.QueryPrefix "select: " "selectOne" fun query => h.selectOne query [] where
  kind := ⟨.selectOne, by decide, by decide, fun _ => rfl⟩
  named := by decide
  invoked _ _ _ := by simp only [invoke]
  asks _ := h.selectOne_asks _ _
  ends _ := h.selectOne_ends _ _

theorem prefixed_selectAll (h : Handler) :
    h.QueryPrefix "select[]: " "selectAll" fun query => h.selectAll query [] where
  kind := ⟨.selectAll, by decide, by decide, fun _ => rfl⟩
  named := by decide
  invoked _ _ _ := by simp only [invoke]
  asks _ := h.selectAll_asks _ _
  ends _ := h.selectAll_ends _ _

section

variable {direct : String → Evaluation Value}

theorem QueryPrefix.calls (hp : h.QueryPrefix start method direct) (hb : Passes body) :
    CallsOnBody (Expression.parse (start ++ body)) method body := by
  obtain ⟨kind, hkind, hs, hscript⟩ := hp.kind
  have hbody : strip (String.ofList (trimLeft body.toList)) = strip body := by
    simp only [strip, String.toList_ofList, trim_trimLeft]
  have hwraps : Script.Wraps (String.ofList (trimLeft body.toList)) := by
    rw [Script.Wraps, hbody]
    exact ⟨hb.unbracketed, hb.unquoted⟩
  have hone : [method].length < Script.maxNesting := by
    show 1 < Script.maxNesting
    decide
  have hme : Script.isFreeName selfCallName = true := by decide
  have hread := Script.wrapped_parses hme (by simpa using hp.named) hone hwraps
    (by rw [hbody]; exact hb.quotable)
  rw [hbody] at hread
  exact ⟨_, parse_prefixed hkind hs hb.line ▸ hscript _, hread⟩

theorem QueryPrefix.forwards (hp : h.QueryPrefix start method direct)
    (hme : h.bindings.contains selfCallName = false) (hb : Passes body) :
    Forwards (h.evaluate (fuel + 1) (start ++ body)) (Expression.parse (start ++ body))
      (direct (strip body)) :=
  called_forwards hme (hp.calls hb) (fun _ _ => hp.invoked _ _ _) (hp.asks _) (hp.ends _)

end

/-- The expressions with a prefix for queries do what the queries do, for every body that comes
through a script as it is. Only a blank body is no query; all rows are answered in any other case.
-/
theorem select_prefixes_query (h : Handler) (fuel : Nat) (body : String)
    (hme : h.bindings.contains selfCallName = false) (hb : Passes body) :
    Forwards (h.evaluate (fuel + 1) ("select: " ++ body)) (Expression.parse ("select: " ++ body))
        (h.selectOne (strip body) []) ∧
      Forwards (h.evaluate (fuel + 1) ("select[]: " ++ body))
        (Expression.parse ("select[]: " ++ body)) (h.selectAll (strip body) []) ∧
      (isBlankText body.toList = false →
        ∃ v, (h.evaluate (fuel + 1) ("select[]: " ++ body)).outcome = .done (.value v)) := by
  have hall : Forwards (h.evaluate (fuel + 1) ("select[]: " ++ body))
      (Expression.parse ("select[]: " ++ body)) (h.selectAll (strip body) []) :=
    h.prefixed_selectAll.forwards hme hb
  refine ⟨h.prefixed_select.forwards hme hb, hall, fun hblank => ?_⟩
  have htext : isBlankText (strip body).toList = false := by
    rw [strip, String.toList_ofList, isBlankText_trim, hblank]
  obtain ⟨v, hv⟩ := h.selectAll_done htext []
  exact ⟨v, (hall.value _).mpr ⟨v, hv, rfl⟩⟩

def ofOneOrder : Handler :=
  .ofRequest ({ Application.empty with
    records := [("Order", [.map [("code", .string "A1")]])] }.services Table.empty)
    ⟨none, none, none⟩

theorem select_prefixes_query_code :
    (ofOneOrder.evaluate 1 ("select: " ++ " self.code FROM Order self ")).outcome =
      .done (.value (.string "A1")) := by
  have hquotes : ¬quotes <:+: (strip " self.code FROM Order self ").toList :=
    fun h => absurd (h.sublist.count_le '"') (by decide)
  have hforwards := (select_prefixes_query ofOneOrder 0 " self.code FROM Order self " (by decide)
    ⟨by decide, by decide, by decide, hquotes, by decide⟩).1
  exact (hforwards.value _).mpr ⟨.string "A1", by rfl, rfl⟩

end Handler

end ActionDispatch
