import ActionDispatch.Proofs.Handler.Limit
import ActionDispatch.Proofs.Handler.References
import ActionDispatch.Proofs.Handler.SelfEvaluation

/-!
# Chains of actions

The actions of a request are run from left to right, up to the first that has something else than a
value. That one decides the answer, and what is reported is what the actions up to it report, each
run once. Where one of them is a script that evaluates itself there is no answer.
-/

set_option autoImplicit false

namespace ActionDispatch

def chainNames (names : String) : List String :=
  ((names.toList.splitOn ',').map fun name => String.ofList (Text.trim name)).filter fun name =>
    !name.isEmpty

theorem Group.parse_actions (names : String) : (Group.parse names).actions = chainNames names := by
  rw [Group.parse, Group.ofNames_actions, Definition.references, chainNames, List.map_map]
  have hstrip : Text.strip ∘ String.ofList = fun name => String.ofList (Text.trim name) := by
    funext name
    simp only [Function.comp_apply, Text.strip, String.toList_ofList]
  rw [hstrip]

namespace Handler

def HasValue (r : Evaluation Result) : Prop := ∃ value, r.outcome = .done (.value value)

inductive Decides : Outcome EvalError Result → Response → Prop where
  | response (response : Response) : Decides (.done (.response response)) response
  | failure (error : EvalError) : Decides (.failed error)
      ⟨.failure, none, some ⟨error.kind, error.message⟩, false, none, none, none, []⟩

/-- The run of a chain of steps: one step decides it and none behind that step is run, or all have
values, which are the data of the answer. -/
inductive ChainRun (step : String → Evaluation Result) (names : List String) :
    Evaluation Response → Prop where
  | decided {before after : List String} {name : String} {response : Response} :
      names = before ++ name :: after → (∀ earlier ∈ before, HasValue (step earlier)) →
      Decides (step name).outcome response →
      ChainRun step names
        ⟨before.flatMap (fun earlier => (step earlier).events) ++ (step name).events,
        .done response⟩
  | collected {values : List Value} :
      names.map (fun name => (step name).outcome) = values.map (fun value => .done (.value value)) →
      ChainRun step names ⟨names.flatMap fun name => (step name).events,
        .done ⟨.success, some (.list values), none, false, none, none, none, []⟩⟩

/-- The steps that a chain comes to end: each step behind steps with values. -/
def StartedEnd (step : String → Evaluation Result) (names : List String) : Prop :=
  ∀ before name after, names = before ++ name :: after →
    (∀ earlier ∈ before, HasValue (step earlier)) → (step name).Ends

variable {step : String → Evaluation Result}

/-- The step that decides a chain is the first one without a value. -/
theorem first_without_value (step : String → Evaluation Result) (names : List String) :
    (∃ values : List Value, names.map (fun name => (step name).outcome) =
        values.map fun value => .done (.value value)) ∨
      ∃ before name after, names = before ++ name :: after ∧
        (∀ earlier ∈ before, HasValue (step earlier)) ∧ ¬HasValue (step name) := by
  induction names with
  | nil => exact .inl ⟨[], rfl⟩
  | cons name rest ih =>
    by_cases hv : HasValue (step name)
    · obtain ⟨values, hvalues⟩ | ⟨before, other, after, rfl, hbefore, hother⟩ := ih
      · obtain ⟨value, ho⟩ := hv
        exact .inl ⟨value :: values, by rw [List.map_cons, List.map_cons, ho, hvalues]⟩
      · exact .inr ⟨name :: before, other, after, rfl,
          List.forall_mem_cons.mpr ⟨hv, hbefore⟩, hother⟩
    · exact .inr ⟨[], name, rest, rfl, by simp, hv⟩

theorem without_value_decides {r : Evaluation Result} (h : ¬HasValue r) (hends : r.Ends) :
    ∃ response, Decides r.outcome response := by
  cases ho : r.outcome with
  | done result =>
    cases result with
    | value value => exact absurd ⟨value, ho⟩ h
    | response response => exact ⟨_, .response response⟩
  | failed error => exact ⟨_, .failure error⟩
  | unfinished => exact absurd ho hends

theorem runGroup_value {name : String} {value : Value}
    (ho : (step name).outcome = .done (.value value))
    (rest : List String) (values : List Value) :
    runGroup step (name :: rest) values =
      ⟨(step name).events ++ (runGroup step rest (values ++ [value])).events,
        (runGroup step rest (values ++ [value])).outcome⟩ := by
  rw [runGroup, Run.bind_of_done ho]

theorem runGroup_collected {names : List String} {found : List Value}
    (h : names.map (fun name => (step name).outcome) = found.map fun value => .done (.value value))
    (values : List Value) :
    runGroup step names values =
      ⟨names.flatMap fun name => (step name).events, .done (.value (.list (values ++ found)))⟩ := by
  induction names generalizing found values with
  | nil =>
    obtain rfl : found = [] := by simpa using h.symm
    rw [List.append_nil]
    rfl
  | cons name rest ih =>
    cases found with
    | nil => cases h
    | cons value found =>
      obtain ⟨ho, hrest⟩ := List.cons.inj h
      rw [runGroup_value ho, ih hrest]
      simp

theorem runGroup_decided {name : String} {response : Response}
    (hd : Decides (step name).outcome response) (after : List String) (values : List Value) :
    (runGroup step (name :: after) values).settle chainResponse =
      (⟨(step name).events, .done response⟩ : Evaluation Response) := by
  rw [runGroup]
  generalize ho : (step name).outcome = found at hd
  cases hd with
  | response response =>
    rw [Run.bind_of_done ho]
    simp only [Run.settle, pure, Run.done, List.append_nil]
    rfl
  | failure error =>
    rw [Run.bind_of_failed ho]
    rfl

theorem runGroup_unfinished {name : String} (ho : (step name).outcome = .unfinished)
    (after : List String) (values : List Value) :
    (runGroup step (name :: after) values).settle chainResponse =
      (⟨(step name).events, .unfinished⟩ : Evaluation Response) := by
  rw [runGroup, Run.bind_of_unfinished ho]
  rfl

/-- Steps with values in front of a group are run before it, and do not change how it is decided. -/
theorem runGroup_behind {before rest : List String}
    (hb : ∀ earlier ∈ before, HasValue (step earlier)) {answer : Evaluation Response}
    (hr : ∀ values, (runGroup step rest values).settle chainResponse = answer)
    (values : List Value) :
    (runGroup step (before ++ rest) values).settle chainResponse =
      (⟨before.flatMap (fun earlier => (step earlier).events) ++ answer.events, answer.outcome⟩ :
        Evaluation Response) := by
  induction before generalizing values with
  | nil => exact hr values
  | cons name before ih =>
    obtain ⟨⟨value, ho⟩, hb⟩ := List.forall_mem_cons.mp hb
    have hnext := ih hb (values ++ [value])
    rw [List.cons_append, runGroup_value ho, List.flatMap_cons, List.append_assoc]
    simp only [Run.settle, Run.mk.injEq] at hnext ⊢
    exact ⟨by rw [hnext.1], hnext.2⟩

theorem runGroup_chain {names : List String} (hends : StartedEnd step names) :
    ChainRun step names ((runGroup step names []).settle chainResponse) := by
  obtain ⟨values, hvalues⟩ | ⟨before, name, after, rfl, hbefore, hname⟩ :=
    first_without_value step names
  · rw [runGroup_collected hvalues []]
    exact .collected hvalues
  · obtain ⟨response, hd⟩ := without_value_decides hname (hends before name after rfl hbefore)
    rw [runGroup_behind hbefore (runGroup_decided hd after) []]
    exact .decided rfl hbefore hd

theorem ChainRun.ends {names : List String} {r : Evaluation Response} (h : ChainRun step names r) :
    r.Ends := by
  cases h <;> exact nofun

theorem runGroup_ends (step : String → Evaluation Result) (names : List String) :
    ((runGroup step names []).settle chainResponse : Evaluation Response).Ends ↔
      StartedEnd step names := by
  constructor
  · intro hends before name after hsplit hbefore ho
    rw [hsplit, runGroup_behind hbefore (runGroup_unfinished ho after)] at hends
    exact hends rfl
  · intro hends
    exact (runGroup_chain hends).ends

theorem execute_chain {h : Handler} {names : String} (ha : h.request.action = some names)
    (fuel : Nat) :
    h.execute fuel =
      (runGroup (fun name => h.actionAt fuel name 1) (chainNames names) []).settle
        chainResponse := by
  rw [execute, ha, ← Group.parse_actions]

/-- Executing a request is the chain of its actions from left to right, each of them a reference of
depth one, and has an answer just where the actions that are started end. It fails only where the
request names no action, and then does nothing. -/
theorem execute_left_to_right (h : Handler) (fuel : Nat) :
    (h.request.action = none → h.execute fuel = Run.fail .missingAction) ∧
    (∀ error, (h.execute fuel).outcome = .failed error →
      h.request.action = none ∧ error = .missingAction) ∧
    ∀ names, h.request.action = some names →
      ((h.execute fuel).Ends ↔
        StartedEnd (fun name => h.actionAt fuel name 1) (chainNames names)) ∧
      (StartedEnd (fun name => h.actionAt fuel name 1) (chainNames names) →
        ChainRun (fun name => h.actionAt fuel name 1) (chainNames names) (h.execute fuel)) := by
  refine ⟨fun ha => ?_, fun error ho => ?_, fun names ha => ?_⟩
  · rw [execute, ha]
  · cases ha : h.request.action with
    | none =>
      simp only [execute, ha] at ho
      cases ho
      exact ⟨rfl, rfl⟩
    | some names =>
      rw [execute_chain ha] at ho
      exact absurd ho (Run.settle_not_failed _ _ error)
  · rw [execute_chain ha]
    exact ⟨runGroup_ends _ _, runGroup_chain⟩

def constantAndCall : Handler :=
  { ofActions 3 [("gone", .method "orders" "list"), ("note", .expression "text")] with
    request := ⟨some " note,, gone ,note", none, none⟩ }

theorem execute_left_to_right_call :
    (constantAndCall.execute 4).Ends ∧
    ChainRun (fun name => constantAndCall.actionAt 4 name 1) ["note", "gone", "note"]
      (constantAndCall.execute 4) ∧
    ∃ response, (constantAndCall.execute 4).outcome = .done response ∧
      response.exception = some ⟨"NotFound", "Controller not found: orders"⟩ := by
  obtain ⟨-, -, hchain⟩ := execute_left_to_right constantAndCall 4
  obtain ⟨hiff, hrun⟩ := hchain " note,, gone ,note" rfl
  have hnames : chainNames " note,, gone ,note" = ["note", "gone", "note"] := by decide
  have hends : (constantAndCall.execute 4).Ends := nofun
  rw [hnames] at hiff hrun
  exact ⟨hends, hrun (hiff.mp hends), _, rfl, by decide⟩

def selfEvaluatingAction : Handler :=
  .ofRequest
    ({ Application.empty with actions := [("again", .expression selfEvaluation)] }.services
      Table.empty)
    ⟨some "again", none, some [("x", .string selfEvaluation)]⟩

theorem self_evaluating_action_never_ends (fuel : Nat) :
    ¬(selfEvaluatingAction.actionAt fuel "again" 1).Ends := by
  have hx : selfEvaluatingAction.EvaluatesItself := ⟨rfl, rfl⟩
  have hd : ¬selfEvaluatingAction.services.settings.maxActionDepth < 1 := by decide
  have ha : selfEvaluatingAction.services.action? (Text.strip "again") =
      some (.expression selfEvaluation) := rfl
  intro hends
  cases fuel with
  | zero => exact hends rfl
  | succ fuel =>
    rw [actionAt_followed fuel hd ha] at hends
    exact hends (self_evaluation_never_ends hx fuel 1).1

/-- No allowance of steps lets a request end whose action evaluates itself. -/
theorem self_evaluating_request_unanswered :
    selfEvaluatingAction.request.action = some "again" ∧
      ∀ fuel, (selfEvaluatingAction.execute fuel).outcome = .unfinished := by
  refine ⟨rfl, fun fuel => ?_⟩
  by_contra hends
  have ha : selfEvaluatingAction.request.action = some "again" := rfl
  rw [execute_chain ha] at hends
  have hnames : chainNames "again" = [] ++ "again" :: [] := by decide
  exact self_evaluating_action_never_ends fuel
    ((runGroup_ends _ _).mp hends [] "again" [] hnames nofun)

end Handler

end ActionDispatch
