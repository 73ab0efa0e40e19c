import ActionDispatch.Proofs.Script.HostCalls
import ActionDispatch.Proofs.Script.MethodCall

/-!
# What scripts see of their scope

A script looks up the names of its tree and nothing else: the names of members, methods and called
functions are no names of the scope. Whether a name is bound counts as well as the value that it is
bound to, since a call on a path goes to the host just where the head of the path is not bound.
-/

set_option autoImplicit false

namespace ActionDispatch.Script

variable {Event : Type} {scope scope' : Table Value}

def Agree (scope scope' : Table Value) (trees : List Expr) : Prop :=
  ∀ word, .name word ∈ trees → scope.get? word = scope'.get? word

theorem Agree.mono {trees trees' : List Expr} (h : Agree scope scope' trees)
    (hsub : ∀ e ∈ trees', e ∈ trees) : Agree scope scope' trees' :=
  fun word hword => h word (hsub _ hword)

theorem static_agree : ∀ e : Expr, Agree scope scope' e.subtrees →
    e.staticPath? scope = e.staticPath? scope'
  | .name word, h => by
    have hword : scope.get? word = scope'.get? word := h word (by simp [Expr.subtrees])
    have hbound : scope.contains word = scope'.contains word := by
      rw [Table.contains, Table.contains, hword]
    rw [Expr.staticPath?, Expr.staticPath?, hbound]
  | .property target member false, h => by
    have htarget := static_agree target (h.mono fun e he => by simp [Expr.subtrees, he])
    simp only [Expr.staticPath?, htarget]
  | .property _ _ true, _ | .literal _, _ | .list _, _ | .index _ _, _ | .call _ _, _
  | .invoke _ _ _ _, _ | .not _, _ | .binary _ _ _, _ | .elvis _ _, _ => rfl

mutual
theorem eval_agree (host : Host Event) : ∀ e : Expr, Agree scope scope' e.subtrees →
    e.eval scope host = e.eval scope' host
  | .literal value, _ => rfl
  | .list items, h => by
    have hitems := evalAll_agree host items (h.mono fun e he => by simp [Expr.subtrees, he])
    simp only [Expr.eval, hitems]
  | .name word, h => by
    have hword : scope.get? word = scope'.get? word := h word (by simp [Expr.subtrees])
    simp only [Expr.eval, hword]
  | .property target member safe, h => by
    have htarget := eval_agree host target (h.mono fun e he => by simp [Expr.subtrees, he])
    simp only [Expr.eval, htarget]
  | .index target position, h => by
    have htarget := eval_agree host target (h.mono fun e he => by simp [Expr.subtrees, he])
    have hposition := eval_agree host position (h.mono fun e he => by simp [Expr.subtrees, he])
    simp only [Expr.eval, htarget, hposition]
  | .call function args, _ => rfl
  | .invoke target method args safe, h => by
    have htarget : Agree scope scope' target.subtrees :=
      h.mono fun e he => by simp [Expr.subtrees, he]
    have hargs := evalAll_agree host args (h.mono fun e he => by simp [Expr.subtrees, he])
    simp only [Expr.eval, static_agree target htarget, eval_agree host target htarget, hargs]
  | .not operand, h => by
    have hoperand := eval_agree host operand (h.mono fun e he => by simp [Expr.subtrees, he])
    simp only [Expr.eval, hoperand]
  | .binary op left right, h => by
    have hleft := eval_agree host left (h.mono fun e he => by simp [Expr.subtrees, he])
    have hright := eval_agree host right (h.mono fun e he => by simp [Expr.subtrees, he])
    simp only [Expr.eval, hleft, hright]
  | .elvis left right, h => by
    have hleft := eval_agree host left (h.mono fun e he => by simp [Expr.subtrees, he])
    have hright := eval_agree host right (h.mono fun e he => by simp [Expr.subtrees, he])
    simp only [Expr.eval, hleft, hright]
termination_by structural e => e

theorem evalAll_agree (host : Host Event) : ∀ es : List Expr, Agree scope scope' (subtreesOf es) →
    evalAll scope host es = evalAll scope' host es
  | [], _ => rfl
  | e :: rest, h => by
    have hfirst := eval_agree host e (h.mono fun e he => by simp [subtreesOf, he])
    have hrest := evalAll_agree host rest (h.mono fun e he => by simp [subtreesOf, he])
    simp only [evalAll, hfirst, hrest]
termination_by structural es => es
end

theorem path_static {first : String} (hf : scope.contains first = false) (members : List String) :
    (pathOf first members).staticPath? scope = some (".".intercalate (first :: members)) := by
  induction members using List.reverseRecOn with
  | nil => simp [pathOf, Expr.staticPath?, hf]
  | append_singleton members member ih =>
    have htext : ".".intercalate (first :: (members ++ [member])) =
        ".".intercalate (first :: members) ++ "." ++ member := by
      rw [← String.toList_inj, path_text, String.toList_append, String.toList_append, path_text,
        pathWords_concat]
      simp
    rw [path_concat, Expr.staticPath?, ih, htext]
    rfl

theorem path_bound {first : String} (hf : scope.contains first = true) (members : List String) :
    (pathOf first members).staticPath? scope = none := by
  induction members using List.reverseRecOn with
  | nil => simp [pathOf, Expr.staticPath?, hf]
  | append_singleton members member ih => rw [path_concat, Expr.staticPath?, ih, Option.map_none]

/-- A path whose head is null fails at its first member. -/
theorem path_null (host : Host Event) {first : String} (hf : scope.get? first = some .null)
    (member : String) (members : List String) :
    (pathOf first (member :: members)).eval scope host = .fail (.nullReference member) := by
  induction members using List.reverseRecOn with
  | nil =>
    simp only [pathOf, List.foldl_cons, List.foldl_nil, Expr.eval, hf, Option.getD_some]
    rfl
  | append_singleton members last ih =>
    rw [← List.cons_append, path_concat]
    simp only [Expr.eval, ih]
    rfl

/-- A call on a path whose head is not bound goes to the host, whatever the path is. -/
theorem unbound_call (host : Host Event) {first : String} (hf : scope.get? first = none)
    (members : List String) (method : String) (args : List Expr) :
    (Expr.invoke (pathOf first members) method args false).eval scope host =
      evalAll scope host args >>=
        host.invokeStatic (".".intercalate (first :: members)) method := by
  have hfree : scope.contains first = false := by simp [Table.contains, hf]
  simp only [Expr.eval, path_static hfree]

theorem null_call (host : Host Event) {first : String} (hf : scope.get? first = some .null)
    (members : List String) (method : String) (args : List Expr) :
    (Expr.invoke (pathOf first members) method args false).eval scope host =
      .fail (.nullReference (members.headD method)) := by
  have hbound : scope.contains first = true := by simp [Table.contains, hf]
  simp only [Expr.eval, path_bound hbound]
  cases members with
  | nil =>
    simp only [pathOf, List.foldl_nil, Expr.eval, hf, Option.getD_some]
    rfl
  | cons member members =>
    rw [path_null host hf]
    rfl

/-- A script sees only the names that its tree mentions. In two scopes that agree on these it comes
to the same, and makes the same calls in the same order. A name that is bound to null is not an
unbound one: only the latter sends the calls on its paths to the host. -/
theorem eval_sees_mentioned (scope scope' : Table Value) (host : Host Event) :
    (∀ e : Expr, Agree scope scope' e.subtrees →
      e.eval scope host = e.eval scope' host ∧ e.eval scope host.noted = e.eval scope' host.noted) ∧
    (∀ text e, parse text = .ok e → Agree scope scope' e.subtrees →
      evaluate text scope host = evaluate text scope' host) ∧
    ∀ head members method args,
      (scope.get? head = none →
        (Expr.invoke (pathOf head members) method args false).eval scope host =
          evalAll scope host args >>=
            host.invokeStatic (".".intercalate (head :: members)) method) ∧
      (scope.get? head = some .null →
        (Expr.invoke (pathOf head members) method args false).eval scope host =
          .fail (.nullReference (members.headD method))) := by
  refine ⟨fun e h => ⟨eval_agree host e h, eval_agree host.noted e h⟩, fun text e hp h => ?_,
    fun head members method args => ⟨fun hf => unbound_call host hf members method args,
      fun hf => null_call host hf members method args⟩⟩
  rw [evaluate_parsed hp, evaluate_parsed hp]
  exact eval_agree host e h

/-- Members and methods that are bound as names do not matter: `order.note ?: Order.all()` comes to
the rows of the host in both scopes, though `note` and `all` are bound in the second one. Where
`Order` is bound to null it comes to a failure. -/
theorem eval_sees_mentioned_order :
    let host : Host Unit :=
      { invokeStatic := fun target method _ => return .string (target ++ "/" ++ method)
        invokeMethod := fun _ method _ => .fail (.unknownMethod "value" method) }
    let script := Expr.elvis (.property (.name "order") "note" false)
      (.invoke (.name "Order") "all" [] false)
    let order : String × Value := ("order", .map [("note", .null)])
    script.eval [order] host =
        script.eval [("all", .int 1), ("note", .string "bound"), order] host ∧
      script.eval [("Order", .null), order] host = .fail (.nullReference "all") := by
  intro host script order
  refine ⟨((eval_sees_mentioned _ _ host).1 script ?_).1, rfl⟩
  intro word hword
  simp only [script, Expr.subtrees, subtreesOf, List.mem_cons, List.cons_append, List.nil_append,
    Expr.name.injEq, reduceCtorEq, List.not_mem_nil, false_or, or_false] at hword
  obtain rfl | rfl := hword <;> rfl

end ActionDispatch.Script
