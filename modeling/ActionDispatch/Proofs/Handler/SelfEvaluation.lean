import ActionDispatch.Proofs.Handler.Script
import ActionDispatch.Proofs.Script.RoundTrip

/-!
# Expressions that evaluate themselves

A field of the record may be an expression that evaluates this very field. Each of its evaluations
begins another one, a level deeper, and no limit stops them.
-/

set_option autoImplicit false

namespace ActionDispatch.Handler

def selfEvaluation : String := "eval: __me__.evaluate(x)"

def selfEvaluationCall : Script.Expr :=
  .invoke (.name selfCallName) "evaluate" [.name "x"] false

structure EvaluatesItself (h : Handler) : Prop where
  field : h.bindings.get? "x" = some (.string selfEvaluation)
  unhidden : h.bindings.contains selfCallName = false

theorem self_evaluation_script :
    (Expression.parse selfEvaluation).script? = some "__me__.evaluate(x)" ∧
      Script.parse "__me__.evaluate(x)" = .ok selfEvaluationCall := by
  refine ⟨by decide, Script.accepted_parses (Script.spelled_accepted (by decide) ?_) ?_⟩
  · exact Script.spells_flatten selfEvaluationCall.words
  · decide +kernel

variable {h : Handler}

theorem self_evaluation_field (hx : h.EvaluatesItself) (host : Script.Host Event) :
    Script.evalAll h.bindings host [.name "x"] = pure [.string selfEvaluation] := by
  simp only [Script.evalAll, Script.Expr.eval, hx.field, Option.getD_some, Run.pure_bind]

/-- The call comes to what the evaluation of the field one level deeper comes to. -/
theorem self_evaluation_call (hx : h.EvaluatesItself) (fuel depth : Nat) :
    selfEvaluationCall.eval h.bindings (h.hostAt fuel depth) =
      (h.evaluateAt fuel selfEvaluation (depth + 1) >>= fun result =>
        (pure (resultValue result) : Evaluation Value)).mapError EvalError.toScript := by
  rw [selfEvaluationCall, hostAt, handler_call_eval hx.unhidden (self_evaluation_field hx _)]
  rfl

theorem self_evaluation_step (h : Handler) (fuel depth : Nat) :
    h.evaluateAt (fuel + 1) selfEvaluation depth =
      (Run.report (.dispatched (Expression.parse selfEvaluation) depth) >>= fun _ =>
        (selfEvaluationCall.eval h.bindings (h.hostAt fuel depth)).mapError EvalError.ofScript >>=
          fun value => pure (.value value)) := by
  obtain ⟨hs, hp⟩ := self_evaluation_script
  rw [evaluateAt_script fuel depth hs, script_parsed hp]
  rfl

/-- No limit bounds how deep scripts evaluate expressions: the evaluation of the field reaches every
depth that its allowance of steps admits, and never ends. -/
theorem self_evaluation_never_ends (hx : h.EvaluatesItself) (fuel depth : Nat) :
    (h.evaluateAt fuel selfEvaluation depth).outcome = .unfinished ∧
      ∀ k < fuel, ∃ e, .dispatched e (depth + k) ∈
        (h.evaluateAt fuel selfEvaluation depth).events := by
  induction fuel generalizing depth with
  | zero => exact ⟨rfl, by simp⟩
  | succ fuel ih =>
    obtain ⟨ho, hd⟩ := ih (depth + 1)
    rw [self_evaluation_step, self_evaluation_call hx, Run.report_bind, Run.bind_of_unfinished ho]
    refine ⟨rfl, fun k hk => ?_⟩
    cases k with
    | zero => exact ⟨Expression.parse selfEvaluation, by simp⟩
    | succ k =>
      obtain ⟨e, he⟩ := hd k (by omega)
      refine ⟨e, List.mem_cons_of_mem _ ?_⟩
      rwa [show depth + (k + 1) = depth + 1 + k by omega]

theorem self_evaluation_call_never_ends (hx : h.EvaluatesItself) (fuel depth : Nat) :
    (selfEvaluationCall.eval h.bindings (h.hostAt fuel depth)).outcome = .unfinished := by
  obtain ⟨ho, -⟩ := self_evaluation_never_ends hx fuel (depth + 1)
  rw [self_evaluation_call hx, Run.bind_of_unfinished ho]
  rfl

end ActionDispatch.Handler
