import ActionDispatch.Proofs.Script.HostCalls

/-!
# Chains of one operator

Of a chain of `?:`, `&&` or `||` the operands are evaluated from left to right, up to the first that
settles the result. How the operands are grouped does not matter: at the inner operators of a chain
a value is taken for true or false just as it is at the outer one.
-/

set_option autoImplicit false

namespace ActionDispatch.Script

variable {Event : Type}

inductive ShortCircuit where
  | elvis
  | and
  | or
deriving DecidableEq, Repr

namespace ShortCircuit

def join : ShortCircuit → Expr → Expr → Expr
  | .elvis => .elvis
  | .and => .binary .and
  | .or => .binary .or

def settles : ShortCircuit → Value → Bool
  | .and, v => !v.truthy
  | .elvis, v | .or, v => v.truthy

def answer : ShortCircuit → Value → Value
  | .elvis, v => v
  | .and, v | .or, v => .bool v.truthy

def neutral : ShortCircuit → Value
  | .and => .bool true
  | .elvis | .or => .null

variable {op : ShortCircuit}

theorem neutral_open : op.settles op.neutral = false := by
  cases op <;> rfl

/-- A chain inside a chain settles it just where its last value would. -/
theorem settles_answer (v : Value) : op.settles (op.answer v) = op.settles v := by
  cases op <;> rfl

theorem answer_answer (v : Value) : op.answer (op.answer v) = op.answer v := by
  cases op <;> rfl

def answered (op : ShortCircuit) (r : Run Event ScriptError Value) : Run Event ScriptError Value :=
  r >>= fun v => pure (op.answer v)

def step (op : ShortCircuit) (run : Expr → Run Event ScriptError Value) (v : Value) (e : Expr) :
    Run Event ScriptError Value :=
  if op.settles v then pure v else run e

theorem foldlM_settled (run : Expr → Run Event ScriptError Value) {v : Value}
    (h : op.settles v = true) (operands : List Expr) :
    operands.foldlM (op.step run) v = pure v := by
  induction operands with
  | nil => rfl
  | cons e rest ih => rw [List.foldlM_cons, step, if_pos h, Run.pure_bind, ih]

theorem foldlM_open (run : Expr → Run Event ScriptError Value) {v : Value}
    (h : op.settles v = false) (e : Expr) (rest : List Expr) :
    (e :: rest).foldlM (op.step run) v = run e >>= fun w => rest.foldlM (op.step run) w := by
  rw [List.foldlM_cons, step, h]
  rfl

theorem answered_answered (r : Run Event ScriptError Value) :
    op.answered (op.answered r) = op.answered r := by
  simp only [answered, Run.bind_bind, Run.pure_bind, answer_answer]

/-- What goes on in the same way behind a value and behind its answer may go on behind the answered
run. -/
theorem bind_answered (r : Run Event ScriptError Value)
    {next : Value → Run Event ScriptError Value} (h : ∀ v, next (op.answer v) = next v) :
    op.answered r >>= next = r >>= next := by
  simp only [answered, Run.bind_bind, Run.pure_bind, h]

end ShortCircuit

inductive Grouping where
  | operand (e : Expr)
  | join (left right : Grouping)

namespace Grouping

def operands : Grouping → List Expr
  | .operand e => [e]
  | .join left right => left.operands ++ right.operands

def tree (op : ShortCircuit) : Grouping → Expr
  | .operand e => e
  | .join left right => op.join (left.tree op) (right.tree op)

end Grouping

section

variable {op : ShortCircuit} (scope : Table Value) (host : Host Event)

/-- One operator evaluates its left operand, and its right one if the left one leaves it open. -/
theorem join_eval (left right : Expr) :
    (op.join left right).eval scope host = left.eval scope host >>= fun v =>
      if op.settles v then pure (op.answer v) else op.answered (right.eval scope host) := by
  cases op with
  | elvis =>
    simp only [ShortCircuit.join, Expr.eval, ShortCircuit.settles, ShortCircuit.answer,
      ShortCircuit.answered, Run.bind_pure]
  | and | or =>
    simp only [ShortCircuit.join, Expr.eval]
    congr 1
    funext v
    cases hv : v.truthy <;> simp [operate, ShortCircuit.settles, ShortCircuit.answer,
      ShortCircuit.answered, hv]

theorem join_answered (left right : Expr) :
    op.answered ((op.join left right).eval scope host) = (op.join left right).eval scope host := by
  rw [join_eval, ShortCircuit.answered, Run.bind_bind]
  congr 1
  funext v
  by_cases hv : op.settles v = true
  · simp only [hv, if_true, Run.pure_bind, ShortCircuit.answer_answer]
  · simp only [hv]
    exact ShortCircuit.answered_answered _

/-- A tree has the answer of its operands, taken one after the other. -/
theorem tree_folds (g : Grouping) {v : Value} (hv : op.settles v = false) :
    op.answered (g.operands.foldlM (op.step (Expr.eval scope host)) v) =
      op.answered ((g.tree op).eval scope host) := by
  induction g generalizing v with
  | operand e =>
    rw [Grouping.operands, ShortCircuit.foldlM_open _ hv, Grouping.tree]
    exact congrArg op.answered (Run.bind_pure _)
  | join left right ihl ihr =>
    let next (w : Value) : Run Event ScriptError Value :=
      if op.settles w then pure (op.answer w)
      else op.answered ((right.tree op).eval scope host)
    have hnext : ∀ w, next (op.answer w) = next w := by
      intro w
      simp only [next, ShortCircuit.settles_answer, ShortCircuit.answer_answer]
    have hright : ∀ w, op.answered (right.operands.foldlM (op.step (Expr.eval scope host)) w) =
        next w := by
      intro w
      by_cases hw : op.settles w = true
      · rw [ShortCircuit.foldlM_settled _ hw]
        simp only [next, hw, if_true]
        rfl
      · rw [Bool.not_eq_true] at hw
        simp only [next, hw]
        exact ihr hw
    calc op.answered ((Grouping.join left right).operands.foldlM (op.step (Expr.eval scope host)) v)
        = left.operands.foldlM (op.step (Expr.eval scope host)) v >>= fun w =>
            op.answered (right.operands.foldlM (op.step (Expr.eval scope host)) w) := by
          rw [Grouping.operands, List.foldlM_append, ShortCircuit.answered, Run.bind_bind]
          rfl
      _ = left.operands.foldlM (op.step (Expr.eval scope host)) v >>= next := by
          simp only [hright]
      _ = (left.tree op).eval scope host >>= next := by
          rw [← ShortCircuit.bind_answered _ hnext, ihl hv, ShortCircuit.bind_answered _ hnext]
      _ = (op.join (left.tree op) (right.tree op)).eval scope host :=
        (join_eval scope host _ _).symm
      _ = op.answered (((Grouping.join left right).tree op).eval scope host) :=
          (join_answered scope host _ _).symm

/-- A tree of one operator at least comes to the answer of its operands. -/
theorem tree_answers {g : Grouping} (htwo : 2 ≤ g.operands.length) :
    (g.tree op).eval scope host =
      op.answered (g.operands.foldlM (op.step (Expr.eval scope host)) op.neutral) := by
  rw [tree_folds scope host g ShortCircuit.neutral_open]
  cases g with
  | operand e => simp [Grouping.operands] at htwo
  | join left right => exact (join_answered scope host _ _).symm

end

def Open (op : ShortCircuit) (r : Run Event ScriptError Value) : Prop :=
  ∃ v, r.outcome = .done v ∧ op.settles v = false

inductive Decides (op : ShortCircuit) :
    List Expr → Outcome ScriptError Value → Outcome ScriptError Value → Prop where
  | settled {after : List Expr} {v : Value} (h : op.settles v = true) :
      Decides op after (.done v) (.done (op.answer v))
  | last {v : Value} (h : op.settles v = false) : Decides op [] (.done v) (.done (op.answer v))
  | failed {after : List Expr} (error : ScriptError) :
      Decides op after (.failed error) (.failed error)
  | unfinished {after : List Expr} : Decides op after .unfinished .unfinished

/-- The run of a chain from left to right: the operands in front of the one that decides it leave it
open and are each evaluated once, and none behind it is evaluated. -/
inductive Concludes (op : ShortCircuit) (run : Expr → Run Event ScriptError Value)
    (operands : List Expr) : Run Event ScriptError Value → Prop where
  | decided {before after : List Expr} {e : Expr} {outcome : Outcome ScriptError Value}
      (split : operands = before ++ e :: after) (front : ∀ earlier ∈ before, Open op (run earlier))
      (decides : Decides op after (run e).outcome outcome) :
      Concludes op run operands
        ⟨before.flatMap (fun earlier => (run earlier).events) ++ (run e).events, outcome⟩

section

variable {op : ShortCircuit} {run : Expr → Run Event ScriptError Value} {e : Expr}
  {rest : List Expr}

theorem concludes_first {outcome : Outcome ScriptError Value}
    (h : Decides op rest (run e).outcome outcome) :
    Concludes op run (e :: rest) ⟨(run e).events, outcome⟩ :=
  .decided (List.nil_append (e :: rest)).symm (by simp) h

theorem Concludes.behind {r : Run Event ScriptError Value} (h : Concludes op run rest r)
    (he : Open op (run e)) :
    Concludes op run (e :: rest) ⟨(run e).events ++ r.events, r.outcome⟩ := by
  obtain ⟨split, front, decides⟩ := h
  rw [← List.append_assoc]
  exact .decided (congrArg (e :: ·) split) (List.forall_mem_cons.mpr ⟨he, front⟩) decides

theorem folds_conclude (run : Expr → Run Event ScriptError Value) {v : Value}
    (hv : op.settles v = false) {operands : List Expr} (hne : operands ≠ []) :
    Concludes op run operands (op.answered (operands.foldlM (op.step run) v)) := by
  induction operands generalizing v with
  | nil => exact absurd rfl hne
  | cons e rest ih =>
    rw [ShortCircuit.foldlM_open run hv, ShortCircuit.answered, Run.bind_bind]
    cases ho : (run e).outcome with
    | done w =>
      rw [Run.bind_of_done ho]
      by_cases hw : op.settles w = true
      · have hdecides : Decides op rest (run e).outcome (.done (op.answer w)) := ho ▸ .settled hw
        rw [ShortCircuit.foldlM_settled run hw, Run.pure_bind]
        simpa [pure, Run.done] using concludes_first hdecides
      · rw [Bool.not_eq_true] at hw
        cases rest with
        | nil =>
          have hdecides : Decides op [] (run e).outcome (.done (op.answer w)) := ho ▸ .last hw
          simpa [pure, Run.done, Run.bind_of_done] using concludes_first hdecides
        | cons next rest => exact (ih hw (by simp)).behind ⟨w, ho, hw⟩
    | failed error =>
      rw [Run.bind_of_failed ho]
      exact concludes_first (by rw [ho]; exact .failed error)
    | unfinished =>
      rw [Run.bind_of_unfinished ho]
      exact concludes_first (by rw [ho]; exact .unfinished)

end

theorem tree_concludes {op : ShortCircuit} (scope : Table Value) (host : Host Event) {g : Grouping}
    (htwo : 2 ≤ g.operands.length) :
    Concludes op (Expr.eval scope host) g.operands ((g.tree op).eval scope host) := by
  have hne : g.operands ≠ [] := by
    intro hnil
    simp [hnil] at htwo
  rw [tree_answers scope host htwo]
  exact folds_conclude (Expr.eval scope host) ShortCircuit.neutral_open hne

/-- However the operands of a chain are grouped, it is evaluated in the same way: from left to right
up to the operand that decides it, with the same value or failure, the same events, and the same
calls of the host with the same answers. -/
theorem chain_ignores_grouping (op : ShortCircuit) (scope : Table Value) (host : Host Event)
    (g g' : Grouping) (hsame : g.operands = g'.operands) (htwo : 2 ≤ g.operands.length) :
    ((g.tree op).eval scope host = (g'.tree op).eval scope host ∧
      (g.tree op).eval scope host.noted = (g'.tree op).eval scope host.noted) ∧
    Concludes op (Expr.eval scope host) g.operands ((g.tree op).eval scope host) ∧
    Concludes op (Expr.eval scope host.noted) g.operands ((g.tree op).eval scope host.noted) := by
  have htwo' : 2 ≤ g'.operands.length := hsame ▸ htwo
  refine ⟨⟨?_, ?_⟩, tree_concludes scope host htwo, tree_concludes scope host.noted htwo⟩
  · rw [tree_answers scope host htwo, tree_answers scope host htwo', hsame]
  · rw [tree_answers scope host.noted htwo, tree_answers scope host.noted htwo', hsame]

theorem chain_ignores_grouping_and :
    let host : Host Unit :=
      { invokeStatic := fun _ method _ => return .int (if method = "none" then 0 else 7)
        invokeMethod := fun _ method _ => .fail (.unknownMethod "value" method) }
    let call method := Grouping.operand (.invoke (.name "Order") method [] false)
    let left := Grouping.join (.join (call "some") (call "none")) (call "last")
    let right := Grouping.join (call "some") (.join (call "none") (call "last"))
    let answered method answer : Note Unit := .answered (.onPath "Order" method []) (.done answer)
    (left.tree .and).eval Table.empty host.noted = (right.tree .and).eval Table.empty host.noted ∧
      (right.tree .and).eval Table.empty host.noted =
        ⟨[answered "some" (.int 7), answered "none" (.int 0)], .done (.bool false)⟩ := by
  intro host call left right answered
  exact ⟨(chain_ignores_grouping .and Table.empty host left right rfl (by decide)).1.2, rfl⟩

end ActionDispatch.Script
