import ActionDispatch.Proofs.Script.Operands

/-!
# Levels of the grammar

At each level a parser reads an operand and goes on in a loop: with suffixes, or with the operators
of the level. Instead of the tree it ends with, the state of the loop in front of known words is
followed here; at the next word that stops the level the loop gives its tree.
-/

set_option autoImplicit false

namespace ActionDispatch.Script

def jointOf : Nat → JointParser
  | 0 => addJoint?
  | 1 => equalityJoint?
  | 2 => andJoint?
  | 3 => orJoint?
  | _ => elvisJoint?

def atLevel (levels : Nat) : Nat → Parser Expr
  | 0 => postfixed (expression levels)
  | 1 => unary (levels + 1)
  | n + 2 => chain (jointOf n) (atLevel levels (n + 1))

theorem expression_outermost (levels : Nat) : expression (levels + 1) = atLevel levels 6 := rfl

def goOn (levels : Nat) : (n steps : Nat) → Expr → Parser Expr
  | 0, steps => suffixesFrom (expression levels) steps
  | 1, _ => .accept
  | n + 2, steps => chainFrom (jointOf n) (atLevel levels (n + 1)) steps

def Arrives (levels n : Nat) (e : Expr) (ts : List Word) (s : List Char) : Prop :=
  ∃ r steps, atLevel levels n s = goOn levels n steps e r ∧ ts.length ≤ steps ∧ Ahead ts r

def Accepts {α : Type} (p : Parser α) (a : α) (ts : List Word) (s : List Char) : Prop :=
  ∃ r, p s = .accept a r ∧ Ahead ts r

def Follows : Nat → List Word → Prop
  | 0 => Behind
  | n + 1 => Stopped n

theorem stopped_bars {n : Nat} {m : Word} {ts : List Word} (hm : m ≠ [])
    (hall : ∀ t ∈ stops n, clash m t = true) (hs : Stopped n ts) : bars m ts = true := by
  cases ts with
  | nil => simpa [bars] using hm
  | cons t ts => exact hall t hs

theorem stopped_member {n : Nat} {ts : List Word} {s : List Char} (hs : Stopped n ts)
    (h : Ahead ts s) : member? s = none := by
  have hs := stopped_mono (Nat.zero_le n) hs
  exact member_missing (stopped_bars (by decide) (by decide) hs)
    (stopped_bars (by decide) (by decide) hs) h

theorem stopped_mark (mark : String) {n : Nat} {ts : List Word} {s : List Char}
    (hm : mark.toList ≠ []) (hall : ∀ t ∈ stops n, clash mark.toList t = true)
    (hs : Stopped n ts) (h : Ahead ts s) : mark? mark s = none :=
  mark_missing mark (stopped_bars hm hall hs) h

/-- No operator of a level stands where the level is stopped. -/
theorem stopped_joint {n : Nat} {ts : List Word} {s : List Char} (hn : n ≤ 4)
    (hs : Stopped (n + 2) ts) (h : Ahead ts s) : jointOf n s = none := by
  match n, hn with
  | 0, _ => simp [jointOf, addJoint?, joint?, stopped_mark "+" (by decide) (by decide) hs h]
  | 1, _ =>
    simp [jointOf, equalityJoint?, joint?, stopped_mark "==" (by decide) (by decide) hs h,
      stopped_mark "!=" (by decide) (by decide) hs h]
  | 2, _ => simp [jointOf, andJoint?, joint?, stopped_mark "&&" (by decide) (by decide) hs h]
  | 3, _ => simp [jointOf, orJoint?, joint?, stopped_mark "||" (by decide) (by decide) hs h]
  | 4, _ => simp [jointOf, elvisJoint?, joint?, stopped_mark "?:" (by decide) (by decide) hs h]

theorem goOn_stopped {levels n steps : Nat} {e : Expr} {ts : List Word} {s : List Char}
    (hn : n ≤ 6) (hs : Stopped n ts) (h : Ahead ts s) : goOn levels n steps e s = .accept e s := by
  match n, hn with
  | 0, _ =>
    have hm := stopped_member hs h
    have hp := stopped_mark "[" (by decide) (by decide) hs h
    cases steps <;> simp [goOn, suffixesFrom, position, hm, hp]
  | 1, _ => rfl
  | n + 2, hn =>
    have hj := stopped_joint (by omega) hs h
    cases steps <;> simp [goOn, chainFrom, hj]

theorem arrives_accepts {levels n : Nat} {e : Expr} {ts : List Word} {s : List Char} (hn : n ≤ 6)
    (hs : Stopped n ts) (h : Arrives levels n e ts s) : Accepts (atLevel levels n) e ts s := by
  obtain ⟨r, steps, hp, _, hr⟩ := h
  exact ⟨r, by rw [hp, goOn_stopped hn hs hr], hr⟩

theorem follows_stopped {n : Nat} {ts : List Word} (hs : Stopped n ts) : Follows n ts := by
  cases n with
  | zero => exact .stopped hs
  | succ n => exact stopped_mono (Nat.le_succ n) hs

theorem lift_operand {levels : Nat} {e : Expr} {ts : List Word} {s : List Char}
    (hno : mark? "!" s = none) (h : Accepts (atLevel levels 0) e ts s) :
    Arrives levels 1 e ts s := by
  obtain ⟨r, hp, hr⟩ := h
  refine ⟨r, ts.length, ?_, Nat.le_refl _, hr⟩
  have hu : unary (levels + 1) s = postfixed (expression levels) s := by
    simp only [unary, unaryOver, hno]
    rfl
  exact hu.trans hp

theorem lift_chain {levels n : Nat} {e : Expr} {ts : List Word} {s : List Char}
    (h : Accepts (atLevel levels (n + 1)) e ts s) : Arrives levels (n + 2) e ts s := by
  obtain ⟨r, hp, hr⟩ := h
  exact ⟨r, r.length, by simp [atLevel, goOn, chain, hp, Reply.andThen], ahead_length hr, hr⟩

/-- A tree that the parser of a level comes to is one that the parsers of looser levels come to. -/
theorem climb {levels m : Nat} {e : Expr} {ts : List Word} {s : List Char}
    (hno : m = 0 → mark? "!" s = none) (h : Follows m ts → Arrives levels m e ts s) (k : Nat)
    (hn : m + k ≤ 6) (hf : Follows (m + k) ts) : Arrives levels (m + k) e ts s := by
  induction k with
  | zero => exact h hf
  | succ k ih =>
    have hstop : Stopped (m + k) ts := hf
    have ha := arrives_accepts (by omega) hstop (ih (by omega) (follows_stopped hstop))
    match hm : m + k with
    | 0 =>
      rw [hm] at ha
      rw [show m + (k + 1) = 1 by omega]
      exact lift_operand (hno (by omega)) ha
    | j + 1 =>
      rw [hm] at ha
      rw [show m + (k + 1) = j + 2 by omega]
      exact lift_chain ha

theorem joint_found (mark : String) (join : Joint) {t : Word} {ts : List Word} {s : List Char}
    (ht : mark.toList = t) (h : Ahead (t :: ts) s) :
    ∃ r, joint? mark join s = some (join, r) ∧ Ahead ts r := by
  obtain ⟨r, hm, hr⟩ := mark_found mark ht h
  exact ⟨skipSpace r, by simp [joint?, hm], ahead_skip hr⟩

theorem sign_read (op : BinaryOp) {ts : List Word} {s : List Char}
    (h : Ahead (op.sign.toList :: ts) s) :
    ∃ r, jointOf (op.looseness - 2) s = some (.binary op, r) ∧ Ahead ts r := by
  cases op with
  | add => exact joint_found "+" _ rfl h
  | eq =>
    obtain ⟨r, hj, hr⟩ := joint_found "==" (.binary .eq) rfl h
    exact ⟨r,
      by simp [BinaryOp.looseness, jointOf, equalityJoint?, hj], hr⟩
  | ne =>
    obtain ⟨r, hj, hr⟩ := joint_found "!=" (.binary .ne) rfl h
    have hno : mark? "==" s = none := mark_missing "==" rfl h
    exact ⟨r,
      by simp [BinaryOp.looseness, jointOf, equalityJoint?, joint?, hno] at hj ⊢; exact hj, hr⟩
  | and => exact joint_found "&&" _ rfl h
  | or => exact joint_found "||" _ rfl h

/-- The left operand of an operator, its sign and its right operand make the loop of a level come to
the joined tree. -/
theorem join_arrives {levels n : Nat} {left right : Expr} {join : Joint} {sign : Word}
    {us ts : List Word} {s : List Char}
    (hsign : ∀ r, Ahead (sign :: us ++ ts) r → ∃ r', jointOf n r = some (join, r') ∧
      Ahead (us ++ ts) r')
    (hleft : Arrives levels (n + 2) left (sign :: us ++ ts) s)
    (hright : ∀ r, Ahead (us ++ ts) r → Accepts (atLevel levels (n + 1)) right ts r) :
    Arrives levels (n + 2) (join left right) ts s := by
  obtain ⟨r, steps, hp, hsteps, hr⟩ := hleft
  obtain ⟨r', hj, hr'⟩ := hsign r hr
  obtain ⟨r'', ha, hr''⟩ := hright r' hr'
  cases steps with
  | zero => simp at hsteps
  | succ steps =>
    refine ⟨r'', steps, ?_, ?_, hr''⟩
    · rw [hp]
      simp [goOn, chainFrom, hj, ha]
    · simp only [List.cons_append, List.length_cons, List.length_append] at hsteps
      omega

end ActionDispatch.Script
