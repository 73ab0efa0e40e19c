import ActionDispatch.Proofs.Run.Congruence
import ActionDispatch.Script.Eval

/-!
# Scripts between related hosts

A script reports nothing of itself, and of itself it never fails as a refused reference does. What
it comes to is therefore related, by every relation of runs that sequences keep, to what it comes to
with another host, if the answers of the hosts are related on the calls that its tree can make.
-/

set_option autoImplicit false

namespace ActionDispatch

def ScriptError.Plain : ScriptError → Prop
  | .cyclicAction .. => False
  | _ => True

namespace Script

theorem parse_plain {text : String} {e : ScriptError} (h : parse text = .error e) : e.Plain := by
  simp only [parse, parseWithin] at h
  split at h
  · cases h
    trivial
  · split at h
    · split at h <;> cases h
      trivial
    · cases h
      trivial
    · cases h
      trivial

theorem readProperty_plain {receiver : Value} {member : String} {safe : Bool} {e : ScriptError}
    (h : readProperty receiver member safe = .error e) : e.Plain := by
  unfold readProperty at h
  split at h
  · split at h <;> cases h
    trivial
  · cases h
  · split at h
    · cases h
    · split at h <;> cases h
  · cases h
    trivial

theorem readIndex_plain {receiver position : Value} {e : ScriptError}
    (h : readIndex receiver position = .error e) : e.Plain := by
  unfold readIndex at h
  split at h <;> cases h <;> trivial

theorem add_plain {left right : Value} {e : ScriptError} (h : add left right = .error e) :
    e.Plain := by
  unfold add at h
  split at h
  · unfold addInts at h
    split at h <;> cases h
    trivial
  all_goals cases h
  trivial

theorem builtin_plain {receiver : Value} {method : String} {args : List Value}
    {result : Except ScriptError Value} (hr : builtin? receiver method args = some result)
    {e : ScriptError} (h : result = .error e) : e.Plain := by
  subst h
  unfold builtin? at hr
  split at hr
  · obtain ⟨value, -, hv⟩ := Option.map_eq_some_iff.mp hr
    cases hv
  · unfold builtinQuery? at hr
    split at hr
    case h_4 | h_5 => exact readIndex_plain (Option.some.inj hr)
    all_goals cases hr
  · cases hr

mutual
def Expr.subtrees : Expr → List Expr
  | .literal value => [.literal value]
  | .list items => .list items :: subtreesOf items
  | .name word => [.name word]
  | .property target member safe => .property target member safe :: target.subtrees
  | .index target position => .index target position :: (target.subtrees ++ position.subtrees)
  | .call function args => .call function args :: subtreesOf args
  | .invoke target method args safe =>
    .invoke target method args safe :: (target.subtrees ++ subtreesOf args)
  | .not operand => .not operand :: operand.subtrees
  | .binary op left right => .binary op left right :: (left.subtrees ++ right.subtrees)
  | .elvis left right => .elvis left right :: (left.subtrees ++ right.subtrees)
termination_by structural e => e

def subtreesOf : List Expr → List Expr
  | [] => []
  | e :: rest => e.subtrees ++ subtreesOf rest
termination_by structural es => es
end

section

variable {Event : Type} {text : String}

theorem evaluate_parsed {e : Expr} (h : parse text = .ok e) (scope : Table Value)
    (host : Host Event) : evaluate text scope host = e.eval scope host := by
  rw [evaluate, h]
  rfl

theorem evaluate_unparsed {error : ScriptError} (h : parse text = .error error)
    (scope : Table Value)
    (host : Host Event) : evaluate text scope host = .fail error := by
  rw [evaluate, h]
  rfl

end

section

variable {Event Event' : Type} (R : Run.Relation Event Event' ScriptError.Plain)
  (scope : Table Value) (host : Host Event) (host' : Host Event')

structure Answers (trees : List Expr) : Prop where
  static : ∀ target method args safe, .invoke target method args safe ∈ trees →
    ∀ path, target.staticPath? scope = some path → ∀ values,
      R.rel (host.invokeStatic path method values) (host'.invokeStatic path method values)
  method : ∀ receiver method values,
    R.rel (host.invokeMethod receiver method values) (host'.invokeMethod receiver method values)

variable {scope host host'}

theorem Answers.mono {trees trees' : List Expr} (h : Answers R scope host host' trees)
    (hsub : ∀ e ∈ trees', e ∈ trees) : Answers R scope host host' trees' where
  static target method args safe hmem := h.static target method args safe (hsub _ hmem)
  method := h.method

theorem operate_carried (op : BinaryOp) (left : Value)
    {right : Unit → Run Event ScriptError Value} {right' : Unit → Run Event' ScriptError Value}
    (h : R.rel (right ()) (right' ())) :
    R.rel (operate op left right) (operate op left right') := by
  cases op with
  | and =>
    simp only [operate]
    split
    · exact R.bind h fun value => R.pure _
    · exact R.pure _
  | or =>
    simp only [operate]
    split
    · exact R.pure _
    · exact R.bind h fun value => R.pure _
  | eq => exact R.bind h fun value => R.pure _
  | ne => exact R.bind h fun value => R.pure _
  | add => exact R.bind h fun value => R.ofExcept fun e he => add_plain he

theorem invokeOn_carried {trees : List Expr} (h : Answers R scope host host' trees)
    (receiver : Value) (method : String) (args : List Value) :
    R.rel (invokeOn host receiver method args) (invokeOn host' receiver method args) := by
  unfold invokeOn
  split
  next result hr => exact R.ofExcept fun e he => builtin_plain hr he
  next => exact h.method receiver method args

mutual
theorem eval_carried : ∀ e : Expr, Answers R scope host host' e.subtrees →
    R.rel (e.eval scope host) (e.eval scope host')
  | .literal value, _ => R.pure value
  | .list items, h => by
    simp only [Expr.eval]
    have hitems := evalAll_carried items (h.mono R fun e he => by simp [Expr.subtrees, he])
    exact R.bind hitems fun values => R.pure _
  | .name word, _ => R.pure _
  | .property target member safe, h => by
    simp only [Expr.eval]
    have htarget := eval_carried target (h.mono R fun e he => by simp [Expr.subtrees, he])
    exact R.bind htarget fun value => R.ofExcept fun e he => readProperty_plain he
  | .index target position, h => by
    simp only [Expr.eval]
    have htarget := eval_carried target (h.mono R fun e he => by simp [Expr.subtrees, he])
    have hposition := eval_carried position (h.mono R fun e he => by simp [Expr.subtrees, he])
    apply R.bind htarget
    intro receiver
    exact R.bind hposition fun place => R.ofExcept fun e he => readIndex_plain he
  | .call function args, _ => R.fail trivial
  | .invoke target method args safe, h => by
    simp only [Expr.eval]
    have hargs := evalAll_carried args (h.mono R fun e he => by simp [Expr.subtrees, he])
    split
    next path hpath =>
      exact R.bind hargs fun values =>
        h.static target method args safe (by simp [Expr.subtrees]) path hpath values
    next =>
      have htarget := eval_carried target (h.mono R fun e he => by simp [Expr.subtrees, he])
      apply R.bind htarget
      intro receiver
      split
      · split
        · exact R.pure _
        · exact R.fail trivial
      · exact R.bind hargs fun values => invokeOn_carried R h receiver method values
  | .not operand, h => by
    simp only [Expr.eval]
    have hoperand := eval_carried operand (h.mono R fun e he => by simp [Expr.subtrees, he])
    exact R.bind hoperand fun value => R.pure _
  | .binary op left right, h => by
    simp only [Expr.eval]
    have hleft := eval_carried left (h.mono R fun e he => by simp [Expr.subtrees, he])
    have hright := eval_carried right (h.mono R fun e he => by simp [Expr.subtrees, he])
    exact R.bind hleft fun value => operate_carried R op value hright
  | .elvis left right, h => by
    simp only [Expr.eval]
    have hleft := eval_carried left (h.mono R fun e he => by simp [Expr.subtrees, he])
    have hright := eval_carried right (h.mono R fun e he => by simp [Expr.subtrees, he])
    apply R.bind hleft
    intro value
    split
    · exact R.pure value
    · exact hright
termination_by structural e => e

theorem evalAll_carried : ∀ es : List Expr, Answers R scope host host' (subtreesOf es) →
    R.rel (evalAll scope host es) (evalAll scope host' es)
  | [], _ => R.pure []
  | e :: rest, h => by
    simp only [evalAll]
    have hfirst := eval_carried e (h.mono R fun e he => by simp [subtreesOf, he])
    have hrest := evalAll_carried rest (h.mono R fun e he => by simp [subtreesOf, he])
    apply R.bind hfirst
    intro value
    exact R.bind hrest fun values => R.pure _
termination_by structural es => es
end

theorem evaluate_carried {text : String}
    (h : ∀ e, parse text = .ok e → Answers R scope host host' e.subtrees) :
    R.rel (evaluate text scope host) (evaluate text scope host') := by
  cases hp : parse text with
  | ok e =>
    rw [evaluate_parsed hp, evaluate_parsed hp]
    exact eval_carried R e (h e hp)
  | error error =>
    rw [evaluate_unparsed hp, evaluate_unparsed hp]
    exact R.fail (parse_plain hp)

end

section

variable {Event : Type} {P : Event → Prop} (R : Run.Congruence P ScriptError.Plain)

structure Hosts (host host' : Host Event) : Prop where
  static : ∀ target method args,
    R.rel (host.invokeStatic target method args) (host'.invokeStatic target method args)
  method : ∀ receiver method args,
    R.rel (host.invokeMethod receiver method args) (host'.invokeMethod receiver method args)

variable {host host' : Host Event}

theorem Hosts.answers (hh : Hosts R host host') (scope : Table Value) (trees : List Expr) :
    Answers R.relation scope host host' trees :=
  ⟨fun _ method _ _ _ path _ => hh.static path method, hh.method⟩

/-- A script is related to itself between related hosts. -/
theorem evaluate_related (hh : Hosts R host host') (text : String) (scope : Table Value) :
    R.rel (evaluate text scope host) (evaluate text scope host') :=
  evaluate_carried R.relation fun _ _ => hh.answers R scope _

end

end Script

end ActionDispatch
