import ActionDispatch.Handler.Evaluate
import ActionDispatch.Proofs.Script.Evaluation

/-!
# Handlers under two limits

Two handlers that differ in nothing but the limit on action references do the same, up to the first
reference that only one of them refuses. What that leaves in common is for a simulation to say: a
congruence of evaluations and one of scripts, which agree on what crosses from the ones to the
others, and which relate the run that refuses a reference to whatever may take place instead.
-/

set_option autoImplicit false

namespace ActionDispatch

def Event.Plain : Event → Prop
  | .refused .. => False
  | _ => True

def Event.IsCall : Event → Prop
  | .handled .. | .queried _ | .described _ | .bound .. | .askedOne | .askedAll => True
  | .dispatched .. | .followed .. | .refused .. | .called .. | .logged .. => False

theorem Event.IsCall.plain {e : Event} (h : e.IsCall) : e.Plain := by
  cases e with
  | refused action depth => exact h
  | _ => trivial

def EvalError.Plain (e : EvalError) : Prop :=
  e.toScript.Plain

def EvalError.IsForeign (e : EvalError) : Prop :=
  e.toScript = .host e.message

theorem EvalError.IsForeign.plain {e : EvalError} (h : e.IsForeign) : e.Plain := by
  rw [EvalError.Plain, h]
  trivial

namespace Handler

variable {α : Type}

abbrev Plain (r : Evaluation α) : Prop :=
  Run.Within Event.Plain EvalError.Plain r

theorem query_foreign (e : QueryError) : (EvalError.query e).IsForeign := rfl

abbrev Asks (r : Evaluation α) : Prop :=
  Run.Within Event.IsCall EvalError.IsForeign r

theorem call_asks (h : Handler) (controller method : String) : Asks (h.call controller method) := by
  unfold call
  split
  · exact Run.within_pure _
  · apply (Run.within_report trivial).bind
    intro _
    split <;> exact Run.within_pure _

theorem askOne_asks (engine : QueryEngine) (handle : engine.Handle) :
    Asks (askOne engine handle) := by
  apply (Run.within_report trivial).bind
  intro _
  split
  · exact Run.within_pure _
  · exact Run.within_pure _
  · exact Run.within_fail rfl

theorem prepare_within (h : Handler) (query : String) (params : List Value) :
    Run.Within Event.IsCall (fun _ => True) (h.prepare query params) := by
  apply (Run.within_report trivial).bind
  intro _
  apply (Run.within_ofExcept fun _ _ => trivial).bind
  intro handle
  exact (Run.within_report trivial).bind fun _ => Run.within_pure _

theorem selectOne_asks (h : Handler) (query : String) (params : List Value) :
    Asks (h.selectOne query params) := by
  unfold selectOne
  split
  · exact Run.within_fail rfl
  · apply ((h.prepare_within query params).mapError fun e _ => query_foreign e).bind
    intro handle
    exact askOne_asks _ handle

theorem selectAll_asks (h : Handler) (query : String) (params : List Value) :
    Asks (h.selectAll query params) := by
  unfold selectAll
  split
  · exact Run.within_fail rfl
  · have hf : Run.Within Event.IsCall (fun _ => True) (h.fetchAll query params) := by
      apply (h.prepare_within query params).bind
      intro handle
      apply (Run.within_report trivial).bind
      intro _
      exact Run.within_ofExcept fun _ _ => trivial
    exact hf.settle _

theorem fetch_asks (h : Handler) (query : Query) (scope : Table Value) :
    Asks (h.fetch query scope) := by
  apply (Run.within_report trivial).bind
  intro _
  apply (Run.within_ofExcept_mapError query_foreign).bind
  intro handle
  exact (Run.within_report trivial).bind fun _ => askOne_asks _ _

theorem fetchDescribed_asks (h : Handler) (text : String) (params : Table Value) (found : Value) :
    Asks (h.fetchDescribed text params found) := by
  unfold fetchDescribed
  split
  · exact h.fetch_asks _ _
  · exact Run.within_fail rfl

def refusal (name : String) (depth : Nat) : Evaluation Result := do
  Run.report (.refused name depth)
  .fail (.cyclicAction name depth)

theorem actionAt_refused {h : Handler} (fuel : Nat) (name : String) {depth : Nat}
    (hd : h.services.settings.maxActionDepth < depth) :
    h.actionAt (fuel + 1) name depth = refusal (Text.strip name) depth := by
  simp only [actionAt, if_pos hd, refusal]

theorem actionAt_undefined {h : Handler} (fuel : Nat) {name : String} {depth : Nat}
    (hd : ¬h.services.settings.maxActionDepth < depth)
    (ha : h.services.action? (Text.strip name) = none) :
    h.actionAt (fuel + 1) name depth = pure .null := by
  simp only [actionAt, if_neg hd, ha]

def follow (h : Handler) (fuel depth : Nat) : Definition → Evaluation Result
  | .method controller method => do return .response (← h.call controller method)
  | .group actions =>
    runGroup (fun name => h.actionAt fuel name (depth + 1)) (Group.ofNames actions).actions []
  | .expression text => h.evaluateAt fuel text depth

theorem actionAt_followed {h : Handler} (fuel : Nat) {name : String} {depth : Nat}
    (hd : ¬h.services.settings.maxActionDepth < depth) {definition : Definition}
    (ha : h.services.action? (Text.strip name) = some definition) :
    h.actionAt (fuel + 1) name depth =
      (Run.report (.followed (Text.strip name) depth) >>=
        fun _ => h.follow fuel depth definition) := by
  simp only [actionAt, if_neg hd, ha]
  cases definition <;> rfl

/-- A congruence of evaluations and one of scripts that agree on what crosses from the ones to the
others. Runs that only call controllers and the query engine are within the bounds of both. -/
structure Crossing (P : Event → Prop) where
  evals : Run.Congruence P EvalError.Plain
  scripts : Run.Congruence P ScriptError.Plain
  toScript : ∀ {r r' : Evaluation Value}, evals.rel r r' →
    scripts.rel (r.mapError EvalError.toScript) (r'.mapError EvalError.toScript)
  ofScript : ∀ {α : Type} {r r' : Run Event ScriptError α}, scripts.rel r r' →
    evals.rel (r.mapError EvalError.ofScript) (r'.mapError EvalError.ofScript)
  call : ∀ e : Event, e.IsCall → P e

section

variable {P : Event → Prop} (C : Crossing P)

theorem Crossing.asks {r : Evaluation α} (h : Asks r) : C.evals.rel r r :=
  C.evals.within (h.mono C.call fun _ he => he.plain)

theorem runGroup_related {step step' : String → Evaluation Result}
    (hs : ∀ name, C.evals.rel (step name) (step' name)) (names : List String)
    (values : List Value) :
    C.evals.rel (runGroup step names values) (runGroup step' names values) := by
  induction names generalizing values with
  | nil => exact C.evals.pure _
  | cons name rest ih =>
    apply C.evals.bind (hs name)
    intro result
    cases result with
    | value value => exact ih _
    | response response => exact C.evals.pure _

variable {nested nested' : Nested} {search search' : Search} {depth : Nat}
  (hn : ∀ text, C.evals.rel (nested text (depth + 1)) (nested' text (depth + 1)))
  (hs : ∀ model filter params,
    C.evals.rel (search model filter params depth) (search' model filter params depth))

include hn hs

theorem invoke_related (h : Handler) (method : String) (args : List Value) :
    C.evals.rel (h.invoke nested search depth method args)
      (h.invoke nested' search' depth method args) := by
  unfold invoke
  split
  · exact C.asks (h.selectOne_asks _ _)
  · exact C.asks (h.selectAll_asks _ _)
  · exact hs _ _ _
  · exact hs _ _ _
  · exact C.evals.bind (hn _) fun result => C.evals.pure _
  · exact C.evals.fail trivial

theorem host_related (h : Handler) :
    Script.Hosts C.scripts (h.host nested search depth) (h.host nested' search' depth) where
  static target method args := by
    simp only [host]
    split
    · exact C.toScript (invoke_related C hn hs h method args)
    · split
      · exact C.scripts.pure _
      · exact C.scripts.fail trivial
  method receiver method args := by
    simp only [host]
    split
    · exact C.scripts.pure _
    · exact C.scripts.fail trivial

theorem script_related (h : Handler) (text : String) :
    C.evals.rel (h.script nested search text depth) (h.script nested' search' text depth) :=
  C.ofScript (Script.evaluate_related C.scripts (host_related C hn hs h) text h.bindings)

end

/-- A crossing in which nothing that evaluations report as they go on is out of bounds, and which
relates a run that is given up, for want of steps or at the limit, to what may take place instead.
-/
structure Simulation (P : Event → Prop) (limit limit' : Nat) extends Crossing P where
  dispatched : ∀ (e : Expression) (depth : Nat), P (.dispatched e depth)
  followed : ∀ (name : String) (depth : Nat), P (.followed name depth)
  unfinished : ∀ {α : Type} (r' : Evaluation α), evals.rel Run.unfinished r'
  refused : ∀ (name : String) (depth : Nat) (r' : Evaluation Result), limit < depth →
    (limit' < depth → r' = refusal name depth) → evals.rel (refusal name depth) r'

variable {P : Event → Prop} {limit limit' : Nat} (S : Simulation P limit limit')

def withLimit (h : Handler) (limit : Nat) : Handler :=
  { h with services := { h.services with
      settings := { h.services.settings with maxActionDepth := limit } } }

structure Related (S : Simulation P limit limit') (h h' : Handler) (fuel fuel' : Nat) : Prop where
  evaluate : ∀ text depth,
    S.evals.rel (h.evaluateAt fuel text depth) (h'.evaluateAt fuel' text depth)
  action : ∀ name depth,
    S.evals.rel (h.actionAt fuel name depth) (h'.actionAt fuel' name depth)
  search : ∀ model filter params depth,
    S.evals.rel (h.searchAt fuel model filter params depth)
      (h'.searchAt fuel' model filter params depth)

theorem related_zero (h h' : Handler) (fuel : Nat) : Related S h h' 0 fuel where
  evaluate _ _ := S.unfinished _
  action _ _ := S.unfinished _
  search _ _ _ _ := S.unfinished _

section

variable {S} {h : Handler} {fuel fuel' : Nat}

theorem related_script (hr : Related S h (h.withLimit limit') fuel fuel') (text : String)
    (depth : Nat) :
    S.evals.rel (h.script (h.evaluateAt fuel) (h.searchAt fuel) text depth)
      ((h.withLimit limit').script ((h.withLimit limit').evaluateAt fuel')
        ((h.withLimit limit').searchAt fuel') text depth) :=
  script_related S.toCrossing (fun text => hr.evaluate text (depth + 1))
    (fun model filter params => hr.search model filter params depth) h text

theorem related_evaluate (hr : Related S h (h.withLimit limit') fuel fuel') (text : String)
    (depth : Nat) :
    S.evals.rel (h.evaluateAt (fuel + 1) text depth)
      ((h.withLimit limit').evaluateAt (fuel' + 1) text depth) := by
  simp only [evaluateAt]
  split
  · exact S.evals.pure _
  · refine S.evals.bind (S.evals.report (S.dispatched _ _)) fun _ => ?_
    split
    · exact S.evals.pure _
    · exact S.evals.bind (related_script hr _ _) fun value => S.evals.pure _
    · exact hr.action _ _
    · split
      · exact S.evals.pure _
      · exact S.evals.bind (S.toCrossing.asks (h.call_asks _ _)) fun response => S.evals.pure _
    · exact S.evals.bind (related_script hr _ _) fun value => S.evals.pure _
    · exact S.evals.bind (related_script hr _ _) fun value => S.evals.pure _

theorem related_action (hlimit : h.services.settings.maxActionDepth = limit) (hle : limit ≤ limit')
    (hr : Related S h (h.withLimit limit') fuel fuel') (name : String) (depth : Nat) :
    S.evals.rel (h.actionAt (fuel + 1) name depth)
      ((h.withLimit limit').actionAt (fuel' + 1) name depth) := by
  by_cases hd : limit < depth
  · rw [actionAt_refused fuel name (hlimit ▸ hd)]
    exact S.refused _ depth _ hd fun hd' => actionAt_refused fuel' name hd'
  · have hh : ¬h.services.settings.maxActionDepth < depth := hlimit ▸ hd
    have hh' : ¬(h.withLimit limit').services.settings.maxActionDepth < depth :=
      fun hd' => hd (Nat.lt_of_le_of_lt hle hd')
    cases ha : h.services.action? (Text.strip name) with
    | none =>
      have ha' : (h.withLimit limit').services.action? (Text.strip name) = none := ha
      rw [actionAt_undefined fuel hh ha, actionAt_undefined fuel' hh' ha']
      exact S.evals.pure _
    | some definition =>
      have ha' : (h.withLimit limit').services.action? (Text.strip name) = some definition := ha
      rw [actionAt_followed fuel hh ha, actionAt_followed fuel' hh' ha']
      refine S.evals.bind (S.evals.report (S.followed _ _)) fun _ => ?_
      cases definition with
      | method controller method =>
        exact S.evals.bind (S.toCrossing.asks (h.call_asks _ _)) fun response => S.evals.pure _
      | group actions =>
        exact runGroup_related S.toCrossing (fun name => hr.action name (depth + 1)) _ []
      | expression text => exact hr.evaluate text depth

theorem related_search (hr : Related S h (h.withLimit limit') fuel fuel') (model filter : String)
    (params : Table Value) (depth : Nat) :
    S.evals.rel (h.searchAt (fuel + 1) model filter params depth)
      ((h.withLimit limit').searchAt (fuel' + 1) model filter params depth) := by
  simp only [searchAt]
  exact S.evals.bind (related_script hr _ _) fun found =>
    S.toCrossing.asks (h.fetchDescribed_asks _ _ found)

end

/-- A higher limit and a larger allowance carry every evaluation to a related one. -/
theorem related {h : Handler} (hlimit : h.services.settings.maxActionDepth = limit)
    (hle : limit ≤ limit') (fuel fuel' : Nat) (hf : fuel ≤ fuel') :
    Related S h (h.withLimit limit') fuel fuel' := by
  induction fuel generalizing fuel' with
  | zero => exact related_zero S _ _ _
  | succ fuel ih =>
    cases fuel' with
    | zero => omega
    | succ fuel' =>
      have hr := ih fuel' (by omega)
      exact ⟨related_evaluate hr, related_action hlimit hle hr, related_search hr⟩

end Handler

end ActionDispatch
