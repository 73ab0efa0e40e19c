import ActionDispatch.Proofs.Handler.Limit
import ActionDispatch.Proofs.Handler.SelfEvaluation
import ActionDispatch.Proofs.Script.Beginnings
import ActionDispatch.Proofs.Script.HostCalls

/-!
# Methods called with arguments

The text of a call is read twice: by its form, a word with something between parentheses behind it,
and as a script. Where the second reader finds a call it finds it of the same method. Its arguments
may evaluate whatever scripts can, but no evaluation calls a method with arguments in turn. So a run
that calls one calls no other, and nothing else behind it. An argument that evaluates itself is the
one way to neither a call nor a failure.
-/

set_option autoImplicit false

namespace ActionDispatch
open Text

theorem Invocation.form_spelled {text : String} {invocation : Invocation}
    (h : Invocation.parse? text = some invocation) :
    invocation.method.toList ≠ [] ∧ (∀ c ∈ invocation.method.toList, isWordChar c = true) ∧
      ∃ rest, (strip text).toList = invocation.method.toList ++ '(' :: rest := by
  simp only [Invocation.parse?] at h
  split at h
  next rest hopen =>
    split at h
    next => cases h
    next hform =>
      obtain rfl := Option.some.inj h
      simp only [Bool.or_eq_true, not_or, List.isEmpty_iff] at hform
      simp only [String.toList_ofList, strip]
      refine ⟨hform.1.1, fun _ => List.mem_takeWhile_imp, rest, ?_⟩
      rw [← hopen, List.takeWhile_append_dropWhile]
  next => cases h

/-- The two readers of a call agree on its method. -/
theorem Invocation.same_method {text method : String} {invocation : Invocation}
    {args : List Script.Expr} (h : Invocation.parse? text = some invocation)
    (hp : Script.parse (strip text) = .ok (.call method args)) : method = invocation.method := by
  obtain ⟨hne, hword, rest, ht⟩ := form_spelled h
  exact String.toList_injective (Script.parsed_word hne hword ht hp)

def Event.OfEvaluation : Event → Prop
  | .called .. | .logged .. => False
  | _ => True

theorem Event.IsCall.ofEvaluation {e : Event} (h : e.IsCall) : e.OfEvaluation := by
  cases e with
  | called controller method args => exact h
  | logged level message => exact h
  | _ => trivial

namespace Handler

def reporting (limit : Nat) : Simulation Event.OfEvaluation limit limit where
  evals := .bounded _ _
  scripts := .bounded _ _
  toScript h := h.mapError fun _ _ => trivial
  ofScript h := h.mapError fun _ _ => trivial
  call _ he := he.ofEvaluation
  dispatched _ _ := trivial
  followed _ _ := trivial
  unfinished _ := Run.within_unfinished
  refused _ _ _ _ _ := (Run.within_report trivial).bind fun _ => Run.within_fail trivial

theorem reports (h : Handler) (fuel : Nat) :
    Related (reporting h.services.settings.maxActionDepth) h h fuel fuel :=
  related (reporting _) rfl (Nat.le_refl _) fuel fuel (Nat.le_refl _)

theorem arguments_report (h : Handler) (fuel : Nat) (args : List Script.Expr) :
    ∀ e ∈ (Script.evalAll h.bindings (h.hostAt fuel 0) args).events, e.OfEvaluation := by
  let S := reporting h.services.settings.maxActionDepth
  have hh : Script.Hosts S.scripts (h.hostAt fuel 0) (h.hostAt fuel 0) :=
    host_related S.toCrossing (fun text => (h.reports fuel).evaluate text 1)
      (fun model filter params => (h.reports fuel).search model filter params 0) h
  exact (Script.evalAll_carried S.scripts.relation args (hh.answers _ _ _)).event

/-- The call of a method as a text has it: the controller is registered under the identifier, and
the arguments of the call that the text is a script of have the values, from the first to the last.
-/
structure Reaches (h : Handler) (fuel : Nat) (controller text method : String) (target : Controller)
    (events : List Event) (values : List Value) : Prop where
  registered : h.services.controllers.get? controller = some target
  arguments : ∃ args, Script.parse (strip text) = .ok (.call method args) ∧
    Script.evalAll h.bindings (h.hostAt fuel 0) args = ⟨events, .done values⟩
  evaluated : ∀ e ∈ events, e.OfEvaluation

/-- What comes of a text in the form of a call: a failure where the method is out of reach, a
failure of the method, or its value. -/
inductive Invokes (h : Handler) (fuel : Nat) (controller text method : String) :
    Evaluation Value → Prop
  | refused {events : List Event} {reason : String} (hevents : ∀ e ∈ events, e.OfEvaluation)
      (hno : ∀ target events values, ¬h.Reaches fuel controller text method target events values) :
      Invokes h fuel controller text method ⟨events, .failed (.invocation reason)⟩
  | failed {target : Controller} {events : List Event} {values : List Value}
      {error : ControllerError}
      (hr : h.Reaches fuel controller text method target events values)
      (he : target.call method values = .error error) :
      Invokes h fuel controller text method ⟨events ++ [.called controller method values],
        .failed (.invocation (ScriptError.host error.message).message)⟩
  | answered {target : Controller} {events : List Event} {values : List Value} {value : Value}
      (hr : h.Reaches fuel controller text method target events values)
      (hv : target.call method values = .ok value) :
      Invokes h fuel controller text method
        ⟨events ++ [.called controller method values], .done value⟩

/-- The arguments end, where the controller is registered and the text is the script of a call. -/
def ArgumentsEnd (h : Handler) (fuel : Nat) (controller text : String) : Prop :=
  ∀ target method args, h.services.controllers.get? controller = some target →
    Script.parse (strip text) = .ok (.call method args) →
    (Script.evalAll h.bindings (h.hostAt fuel 0) args).Ends

variable {h : Handler} {fuel : Nat} {controller text method : String}

theorem Invokes.failure {r : Evaluation Value} (hi : h.Invokes fuel controller text method r)
    {e : EvalError} (he : r.outcome = .failed e) : ∃ reason, e = .invocation reason := by
  cases hi with
  | refused | failed => exact ⟨_, (Outcome.failed.inj he).symm⟩
  | answered => cases he

theorem Invokes.ends {r : Evaluation Value} (hi : h.Invokes fuel controller text method r) :
    r.Ends := by
  cases hi <;> exact nofun

theorem fail_invokes {reason : String}
    (hno : ∀ target events values, ¬h.Reaches fuel controller text method target events values) :
    h.Invokes fuel controller text method (.fail (.invocation reason)) :=
  Invokes.refused (fun _ he => nomatch he) hno

theorem callOn_invokes {target : Controller} {args : List Script.Expr}
    (ht : h.services.controllers.get? controller = some target)
    (hp : Script.parse (strip text) = .ok (.call method args))
    (hends : (Script.evalAll h.bindings (h.hostAt fuel 0) args).Ends) :
    h.Invokes fuel controller text method
      ((Script.callOn (callObject target controller) (strip text) h.bindings
        (h.hostAt fuel 0)).mapError fun error => .invocation error.message) := by
  have hevents := h.arguments_report fuel args
  rw [Script.callOn_call hp]
  cases ha : Script.evalAll h.bindings (h.hostAt fuel 0) args with
  | mk events outcome =>
    rw [ha] at hevents hends
    cases outcome with
    | done values =>
      have hr : h.Reaches fuel controller text method target events values :=
        ⟨ht, ⟨args, hp, ha⟩, hevents⟩
      rw [Run.bind_of_done rfl]
      cases hc : target.call method values with
      | ok value =>
        have hobject : callObject target controller method values =
            ⟨[.called controller method values], .done value⟩ := by
          rw [callObject, hc]
          rfl
        rw [hobject]
        exact .answered hr hc
      | error error =>
        have hobject : callObject target controller method values =
            ⟨[.called controller method values], .failed (.host error.message)⟩ := by
          rw [callObject, hc]
          rfl
        rw [hobject]
        exact .failed hr hc
    | failed e =>
      rw [Run.bind_of_failed rfl]
      refine .refused hevents fun target' events' values hr => ?_
      obtain ⟨args', hp', ha'⟩ := hr.arguments
      obtain ⟨-, rfl⟩ := Script.Expr.call.inj (Except.ok.inj (hp.symm.trans hp'))
      cases ha.symm.trans ha'
    | unfinished => exact absurd rfl hends

theorem rpc_invokes (h : Handler) (fuel : Nat) (controller : String) {text : String}
    {invocation : Invocation} (hi : Invocation.parse? text = some invocation)
    (hends : h.ArgumentsEnd fuel controller text) :
    h.Invokes fuel controller text invocation.method (h.rpc fuel controller text) := by
  simp only [rpc, hi]
  cases ht : h.services.controllers.get? controller with
  | none =>
    refine fail_invokes fun target events values hr => ?_
    cases ht.symm.trans hr.registered
  | some target =>
    by_cases hcall : ∃ method args, Script.parse (strip text) = .ok (.call method args)
    · obtain ⟨method, args, hp⟩ := hcall
      obtain rfl := Invocation.same_method hi hp
      exact callOn_invokes ht hp (hends target _ args ht hp)
    · obtain ⟨e, -, hfail⟩ := Script.callOn_other (not_exists.mp <| not_exists.mp hcall ·)
      simp only [hfail]
      refine fail_invokes fun target events values hr => ?_
      obtain ⟨args, hp, -⟩ := hr.arguments
      exact hcall ⟨_, args, hp⟩

theorem rpc_unfinished {target : Controller} {args : List Script.Expr} {invocation : Invocation}
    (hi : Invocation.parse? text = some invocation)
    (ht : h.services.controllers.get? controller = some target)
    (hp : Script.parse (strip text) = .ok (.call method args))
    (ho : (Script.evalAll h.bindings (h.hostAt fuel 0) args).outcome = .unfinished) :
    (h.rpc fuel controller text).outcome = .unfinished := by
  simp only [rpc, hi, ht]
  rw [Script.callOn_call hp, Run.bind_of_unfinished ho]
  rfl

theorem rpc_ends {invocation : Invocation} (hi : Invocation.parse? text = some invocation) :
    (h.rpc fuel controller text).Ends ↔ h.ArgumentsEnd fuel controller text := by
  constructor
  · intro hends target method args ht hp ho
    exact hends (rpc_unfinished hi ht hp ho)
  · intro hends
    exact (h.rpc_invokes fuel controller hi hends).ends

theorem rpc_null (h : Handler) (fuel : Nat) (controller : String)
    (hi : Invocation.parse? text = none) : h.rpc fuel controller text = ⟨[], .done .null⟩ := by
  simp only [rpc, hi]
  rfl

/-- A text that has not the form of a call is null and reports nothing. Any other is answered just
where its arguments end: it calls the method of its form, once and as the last thing that is
reported, with the values of its arguments, or fails before it does; the controller's answer is the
value. Whatever fails is reported as the invocation. -/
theorem rpc_outcomes (h : Handler) (fuel : Nat) (controller text : String) :
    (Invocation.parse? text = none → h.rpc fuel controller text = ⟨[], .done .null⟩) ∧
    (∀ invocation, Invocation.parse? text = some invocation →
      ((h.rpc fuel controller text).Ends ↔ h.ArgumentsEnd fuel controller text) ∧
      (h.ArgumentsEnd fuel controller text →
        h.Invokes fuel controller text invocation.method (h.rpc fuel controller text))) ∧
    ∀ e, (h.rpc fuel controller text).outcome = .failed e → ∃ reason, e = .invocation reason := by
  refine ⟨h.rpc_null fuel controller, fun invocation hi => ?_, fun e he => ?_⟩
  · exact ⟨rpc_ends hi, h.rpc_invokes fuel controller hi⟩
  · cases hi : Invocation.parse? text with
    | none =>
      rw [h.rpc_null fuel controller hi] at he
      cases he
    | some invocation =>
      have hends : (h.rpc fuel controller text).Ends := by simp [Run.Ends, he]
      exact (h.rpc_invokes fuel controller hi ((rpc_ends hi).mp hends)).failure he

def collecting : Handler :=
  .ofRequest
    (Application.empty.services
      [("desk", .ofMethods "desk" Table.empty [("collect", fun args => .ok (.list args))])])
    ⟨none, none, some [("who", .string "Ada")]⟩

def evaluatingCall : String := " collect(who, __me__.evaluate('eval: 1 + 2')) "

theorem rpc_outcomes_collect :
    Invocation.parse? "note" = none ∧ collecting.rpc 9 "desk" "note" = ⟨[], .done .null⟩ ∧
      Invocation.parse? evaluatingCall =
        some ⟨"collect", "who, __me__.evaluate('eval: 1 + 2')"⟩ ∧
      collecting.ArgumentsEnd 9 "desk" evaluatingCall ∧
      collecting.Invokes 9 "desk" evaluatingCall "collect"
        (collecting.rpc 9 "desk" evaluatingCall) ∧
      (match collecting.rpc 9 "desk" evaluatingCall with
        | ⟨[.dispatched .., .called "desk" "collect" [.string "Ada", .int 3]], .done (.list _)⟩ =>
          true
        | _ => false) = true ∧
      (collecting.rpc 9 "mail" "send()").outcome =
        .failed (.invocation "Controller not found: mail") ∧
      ∃ reason, EvalError.invocation "Controller not found: mail" = .invocation reason := by
  have hnone : Invocation.parse? "note" = none := by decide
  have hsome : Invocation.parse? evaluatingCall =
      some ⟨"collect", "who, __me__.evaluate('eval: 1 + 2')"⟩ := by decide +kernel
  have hmatch : (match collecting.rpc 9 "desk" evaluatingCall with
      | ⟨[.dispatched .., .called "desk" "collect" [.string "Ada", .int 3]], .done (.list _)⟩ =>
        true
      | _ => false) = true := by decide +kernel
  have hends : (collecting.rpc 9 "desk" evaluatingCall).Ends := by
    intro ho
    split at hmatch
    next heq =>
      rw [heq] at ho
      cases ho
    next => cases hmatch
  have hfailed : (collecting.rpc 9 "mail" "send()").outcome =
      .failed (.invocation "Controller not found: mail") := rfl
  obtain ⟨hnull, -, -⟩ := rpc_outcomes collecting 9 "desk" "note"
  obtain ⟨-, hcall, -⟩ := rpc_outcomes collecting 9 "desk" evaluatingCall
  obtain ⟨hiff, hinvokes⟩ := hcall _ hsome
  obtain ⟨-, -, hfailure⟩ := rpc_outcomes collecting 9 "mail" "send()"
  exact ⟨hnone, hnull hnone, hsome, hiff.mp hends, hinvokes (hiff.mp hends), hmatch, hfailed,
    hfailure _ hfailed⟩

def collectingItself : Handler :=
  .ofRequest collecting.services ⟨none, none, some [("x", .string selfEvaluation)]⟩

/-- With no allowance of steps a call ends whose argument evaluates itself. -/
theorem self_evaluating_argument_unanswered :
    Invocation.parse? "collect(__me__.evaluate(x))" = some ⟨"collect", "__me__.evaluate(x)"⟩ ∧
      ∀ fuel, (collectingItself.rpc fuel "desk" "collect(__me__.evaluate(x))").outcome =
        .unfinished := by
  have hi : Invocation.parse? "collect(__me__.evaluate(x))" =
      some ⟨"collect", "__me__.evaluate(x)"⟩ := by decide
  have hx : collectingItself.EvaluatesItself := ⟨rfl, rfl⟩
  have hp : Script.parse (strip "collect(__me__.evaluate(x))") =
      .ok (.call "collect" [selfEvaluationCall]) := by
    refine Script.accepted_parses (Script.spelled_accepted (by decide) ?_) ?_
    · exact Script.spells_flatten (Script.Expr.call "collect" [selfEvaluationCall]).words
    · decide +kernel
  refine ⟨hi, fun fuel => rpc_unfinished hi rfl hp ?_⟩
  rw [Script.evalAll, Run.bind_of_unfinished (self_evaluation_call_never_ends hx fuel 0)]

end Handler

end ActionDispatch
