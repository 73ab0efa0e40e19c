import ActionDispatch.Handler.Evaluate
import ActionDispatch.Proofs.Run.Congruence

/-!
# Scripts of a handler

The expressions that are evaluated as scripts, and the scripts that are nothing but a call of the
handler itself: such a script does what the call does.
-/

set_option autoImplicit false

namespace ActionDispatch

def Expression.script? (e : Expression) : Option String :=
  match e.kind with
  | .eval => some e.body
  | .selectOne => some (asCall (Handler.selfCallName ++ ".selectOne") e.body)
  | .selectAll => some (asCall (Handler.selfCallName ++ ".selectAll") e.body)
  | .action | .call | .literal => none

namespace Handler

variable {h : Handler}

theorem evaluateAt_script (fuel : Nat) {text body : String} (depth : Nat)
    (hs : (Expression.parse text).script? = some body) :
    h.evaluateAt (fuel + 1) text depth =
      (Run.report (.dispatched (Expression.parse text) depth) >>= fun _ =>
        h.script (h.evaluateAt fuel) (h.searchAt fuel) body depth >>= fun value =>
          pure (.value value)) := by
  have hempty : (Expression.parse "").kind = .literal := by decide
  have hne : ¬text.isEmpty := by
    intro he
    simp [Expression.script?, String.isEmpty_iff.mp he, hempty] at hs
  simp only [evaluateAt, if_neg hne]
  simp only [Expression.script?] at hs
  cases hk : (Expression.parse text).kind with
  | eval | selectOne | selectAll =>
    simp only [hk, Option.some.injEq] at hs
    rw [← hs]
  | action | call | literal => simp [hk] at hs

variable {nested : Nested} {search : Search} {text method : String} {depth : Nat}
  {args : List Script.Expr} {values : List Value}

theorem handler_call_eval (hme : h.bindings.contains selfCallName = false)
    (ha : Script.evalAll h.bindings (h.host nested search depth) args = pure values) :
    (Script.Expr.invoke (.name selfCallName) method args false).eval h.bindings
        (h.host nested search depth) =
      (h.invoke nested search depth method values).mapError EvalError.toScript := by
  have hpath : (Script.Expr.name selfCallName).staticPath? h.bindings = some selfCallName := by
    simp [Script.Expr.staticPath?, hme]
  simp only [Script.Expr.eval, hpath, ha, Run.pure_bind]
  simp only [host, if_true]

theorem script_parsed {e : Script.Expr} (hp : Script.parse text = .ok e) :
    h.script nested search text depth =
      (e.eval h.bindings (h.host nested search depth)).mapError EvalError.ofScript := by
  rw [script, Script.evaluate, hp]
  rfl

/-- A script that only calls the handler does what the call does. -/
theorem script_calls_handler (hme : h.bindings.contains selfCallName = false)
    (hp : Script.parse text = .ok (.invoke (.name selfCallName) method args false))
    (ha : Script.evalAll h.bindings (h.host nested search depth) args = pure values) :
    h.script nested search text depth =
      ((h.invoke nested search depth method values).mapError EvalError.toScript).mapError
        EvalError.ofScript := by
  rw [script_parsed hp, handler_call_eval hme ha]

end Handler

end ActionDispatch
