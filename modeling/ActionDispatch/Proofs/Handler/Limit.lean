import ActionDispatch.Application.Basic
import ActionDispatch.Proofs.Handler.Simulation

/-!
# The limit and the allowance change no answer

An evaluation that answers, with a value or with any failure but a refused reference, does the same
under every higher limit and with every larger allowance: it reports the same events, in the same
order, and has the same outcome. One that is refused does the same with every larger allowance.
-/

set_option autoImplicit false

namespace ActionDispatch

def Outcome.isAnswer {α : Type} : Outcome EvalError α → Bool
  | .done _ => true
  | .failed (.cyclicAction ..) => false
  | .failed _ => true
  | .unfinished => false

namespace Handler

def raising (limit limit' : Nat) : Simulation Event.Plain limit limit' where
  evals := Run.sameUnless _ _ fun e => ∃ name depth, e = .cyclicAction name depth
  scripts := Run.sameUnless _ _ fun e => ∃ name depth, e = .cyclicAction name depth
  toScript h := Run.SameUnless.mapError h fun e he => by
    obtain ⟨name, depth, rfl⟩ := he
    exact ⟨name, depth, rfl⟩
  ofScript h := Run.SameUnless.mapError h fun e he => by
    obtain ⟨name, depth, rfl⟩ := he
    exact ⟨name, depth, rfl⟩
  call _ := Event.IsCall.plain
  dispatched _ _ := trivial
  followed _ _ := trivial
  unfinished _ := .inl trivial
  refused name depth _ _ _ := .inl ⟨name, depth, rfl⟩

/-- Whatever an evaluation answers, it answers the same, and asks the same of controllers and of the
query engine on the way, under a higher limit and with a larger allowance. -/
theorem higher_limit_same_answer (h : Handler) {limit : Nat}
    (hle : h.services.settings.maxActionDepth ≤ limit) {fuel fuel' : Nat} (hf : fuel ≤ fuel')
    (text : String) (depth : Nat) (ha : (h.evaluateAt fuel text depth).outcome.isAnswer) :
    (h.withLimit limit).evaluateAt fuel' text depth = h.evaluateAt fuel text depth := by
  have hr := related (raising h.services.settings.maxActionDepth limit) rfl hle fuel fuel' hf
  obtain hstop | hsame := hr.evaluate text depth
  · cases ho : (h.evaluateAt fuel text depth).outcome with
    | done result => simp [Run.Stopped, ho] at hstop
    | failed e =>
      simp only [Run.Stopped, ho] at hstop
      obtain ⟨name, depth', rfl⟩ := hstop
      simp [ho, Outcome.isAnswer] at ha
    | unfinished => simp [ho, Outcome.isAnswer] at ha
  · exact hsame

def ofActions (limit : Nat) (actions : Table Definition) : Handler :=
  .ofRequest
    ({ Application.empty with settings := ⟨limit, true⟩, actions := actions }.services Table.empty)
    ⟨none, none, none⟩

def nestedReferences : Table Definition :=
  [("all", .group ["note", "total"]), ("note", .expression "eval: 41"),
    ("total", .expression "eval: __me__.evaluate('action: note') + 1")]

theorem higher_limit_same_answer_nested :
    ((ofActions 4 nestedReferences).evaluateAt 9 "action: all" 0).outcome.isAnswer = true ∧
      (ofActions 32 nestedReferences).evaluateAt 200 "action: all" 0 =
        (ofActions 4 nestedReferences).evaluateAt 9 "action: all" 0 := by
  have ha : ((ofActions 4 nestedReferences).evaluateAt 9 "action: all" 0).outcome.isAnswer := by
    decide +kernel
  have hle : (ofActions 4 nestedReferences).services.settings.maxActionDepth ≤ 32 := by decide
  exact ⟨ha, higher_limit_same_answer (ofActions 4 nestedReferences) hle (by decide) _ _ ha⟩

def granting (limit : Nat) : Simulation Event.Plain limit limit where
  evals := Run.sameUnless _ _ fun _ => False
  scripts := Run.sameUnless _ _ fun _ => False
  toScript h := Run.SameUnless.mapError h fun _ he => he
  ofScript h := Run.SameUnless.mapError h fun _ he => he
  call _ := Event.IsCall.plain
  dispatched _ _ := trivial
  followed _ _ := trivial
  unfinished _ := .inl trivial
  refused _ _ _ hd hr := .inr (hr hd)

theorem granted (h : Handler) {fuel fuel' : Nat} (hf : fuel ≤ fuel') :
    Related (granting h.services.settings.maxActionDepth) h h fuel fuel' :=
  related (granting _) rfl (Nat.le_refl _) fuel fuel' hf

/-- An evaluation that ends is the same with every larger allowance. -/
theorem larger_allowance_same_run (h : Handler) {fuel fuel' : Nat} (hf : fuel ≤ fuel')
    (text : String) (depth : Nat) (hend : (h.evaluateAt fuel text depth).outcome ≠ .unfinished) :
    h.evaluateAt fuel' text depth = h.evaluateAt fuel text depth := by
  obtain hstop | hsame := (h.granted hf).evaluate text depth
  · cases ho : (h.evaluateAt fuel text depth).outcome with
    | done result => simp [Run.Stopped, ho] at hstop
    | failed e => simp [Run.Stopped, ho] at hstop
    | unfinished => exact absurd ho hend
  · exact hsame

end Handler

end ActionDispatch
