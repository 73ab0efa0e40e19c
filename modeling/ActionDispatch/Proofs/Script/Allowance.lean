import ActionDispatch.Proofs.Script.Height

/-!
# Levels that the nesting allows

The nesting of a text bounds the levels that its parser opens, in every alternative that it tries.
Where the scanner has counted a weight, no more brackets and negations are open, so that what the
nesting leaves above the weight is enough for what is still to come. A parser with more levels than
it needs does the same as one with just enough.
-/

set_option autoImplicit false

namespace ActionDispatch.Script
open Text

section Replies

variable {α β : Type} {p q : Parser α} {r r' : Reply α}

theorem accept_deep {a : α} {s : List Char} : Reply.accept a s ≠ .tooDeep := by simp

theorem refuse_deep : (Reply.refuse : Reply α) ≠ .tooDeep := by simp

def Extends (p q : Parser α) : Prop := ∀ s, p s ≠ .tooDeep → q s = p s

theorem andThen_extends {next next' : α → List Char → Reply β} (hr : r ≠ .tooDeep → r' = r)
    (hnext : ∀ a s, next a s ≠ .tooDeep → next' a s = next a s) (h : r.andThen next ≠ .tooDeep) :
    r'.andThen next' = r.andThen next := by
  cases r with
  | accept a s =>
    rw [hr accept_deep]
    exact hnext a s h
  | refuse =>
    rw [hr refuse_deep]
    rfl
  | tooDeep => exact absurd rfl h

theorem map_extends {f : α → β} (hr : r ≠ .tooDeep → r' = r) (h : r.map f ≠ .tooDeep) :
    r'.map f = r.map f :=
  andThen_extends hr (fun _ _ _ => rfl) h

theorem closedBy_extends {next : List Char → Option (List Char)} (hr : r ≠ .tooDeep → r' = r)
    (h : r.closedBy next ≠ .tooDeep) : r'.closedBy next = r.closedBy next :=
  andThen_extends hr (fun _ _ _ => rfl) h

theorem ite_extends {c : Prop} [Decidable c] {a a' b b' : Reply α} (ha : a ≠ .tooDeep → a' = a)
    (hb : b ≠ .tooDeep → b' = b) (h : (if c then a else b) ≠ .tooDeep) :
    (if c then a' else b') = if c then a else b := by
  split at h
  next hc => rw [if_pos hc, if_pos hc, ha h]
  next hc => rw [if_neg hc, if_neg hc, hb h]

theorem Extends.accepts {s rest : List Char} {a : α} (h : Extends p q) (hp : p s = .accept a rest) :
    q s = .accept a rest := by
  rw [h s (by simp [hp]), hp]

theorem Extends.refuses {s : List Char} (h : Extends p q) (hp : p s = .refuse) : q s = .refuse := by
  rw [h s (by simp [hp]), hp]

end Replies

variable {p q nested nested' negated negated' : Parser Expr} {joint? : JointParser}

theorem chainFrom_extends (h : Extends p q) (steps : Nat) (left : Expr) :
    Extends (chainFrom joint? p steps left) (chainFrom joint? q steps left) := by
  induction steps generalizing left with
  | zero => exact fun _ _ => rfl
  | succ steps ih =>
    intro s hs
    simp only [chainFrom] at hs ⊢
    cases hj : joint? s with
    | none => rfl
    | some found =>
      obtain ⟨join, rest⟩ := found
      simp only [hj] at hs ⊢
      cases hp : p rest with
      | accept right rest' =>
        simp only [hp] at hs
        simpa only [h.accepts hp] using ih _ _ hs
      | refuse => simp only [h.refuses hp]
      | tooDeep => simp [hp] at hs

theorem chain_extends (h : Extends p q) : Extends (chain joint? p) (chain joint? q) := fun s =>
  andThen_extends (h s) fun left rest => chainFrom_extends h rest.length left rest

theorem binaries_extends (h : Extends p q) : Extends (binaries p) (binaries q) :=
  chain_extends (chain_extends (chain_extends (chain_extends (chain_extends h))))

theorem itemsFrom_extends (h : Extends p q) (steps : Nat) :
    Extends (itemsFrom p steps) (itemsFrom q steps) := by
  induction steps with
  | zero => exact fun _ _ => rfl
  | succ steps ih =>
    intro s hs
    simp only [itemsFrom] at hs ⊢
    cases hm : mark? "," s with
    | none => rfl
    | some rest =>
      simp only [hm] at hs ⊢
      cases hp : p rest with
      | accept first rest' =>
        simp only [hp] at hs
        simpa only [h.accepts hp] using map_extends (ih rest') hs
      | refuse => simp only [h.refuses hp]
      | tooDeep => simp [hp] at hs

theorem items_extends (h : Extends p q) : Extends (items p) (items q) := by
  intro s hs
  simp only [items] at hs ⊢
  cases hp : p s with
  | accept first rest =>
    simp only [hp] at hs
    simpa only [h.accepts hp] using map_extends (itemsFrom_extends h _ rest) hs
  | refuse => simp only [h.refuses hp]
  | tooDeep => simp [hp] at hs

theorem between_extends {α : Type} {inner inner' : Parser α} (left right : String)
    (h : Extends inner inner') :
    Extends (between left right inner) (between left right inner') := by
  intro s hs
  simp only [between] at hs ⊢
  cases hm : mark? left s with
  | none => rfl
  | some rest =>
    simp only [hm] at hs
    exact closedBy_extends (h rest) hs

theorem arguments_extends (h : Extends p q) : Extends (arguments p) (arguments q) :=
  between_extends "(" ")" (items_extends h)

theorem position_extends (h : Extends p q) : Extends (position p) (position q) :=
  between_extends "[" "]" h

theorem named_extends (h : Extends p q) : Extends (named p) (named q) := by
  intro s hs
  unfold named at hs ⊢
  cases hname : name? s with
  | none => rfl
  | some found =>
    simp only [hname] at hs
    split at hs
    next heq => cases heq
    next heq => cases heq; rfl
    next heq => cases heq; rfl
    next heq => cases heq; rfl
    next name rest htrue hfalse hnull heq =>
      cases heq
      have hargs := arguments_extends h
      cases hp : arguments p rest with
      | accept args rest' => simp only [hargs.accepts hp]
      | refuse => simp only [hargs.refuses hp]
      | tooDeep => simp [hp] at hs

theorem primary_extends (h : Extends p q) : Extends (primary p) (primary q) := by
  intro s hs
  cases s with
  | nil => rfl
  | cons c rest =>
    have hlist : ((items p (skipSpace rest)).closedBy (mark? "]")).map Expr.list ≠ .tooDeep → _ :=
      map_extends (closedBy_extends (items_extends h _))
    have hgroup : (p (skipSpace rest)).closedBy (mark? ")") ≠ .tooDeep → _ := closedBy_extends (h _)
    simp only [primary] at hs ⊢
    exact ite_extends (fun _ => rfl) (ite_extends (fun _ => rfl) (ite_extends (fun _ => rfl)
      (ite_extends hlist (ite_extends hgroup (named_extends h _))))) hs

theorem suffixesFrom_extends (h : Extends p q) (steps : Nat) (target : Expr) :
    Extends (suffixesFrom p steps target) (suffixesFrom q steps target) := by
  induction steps generalizing target with
  | zero => exact fun _ _ => rfl
  | succ steps ih =>
    intro s hs
    simp only [suffixesFrom] at hs ⊢
    cases hm : member? s with
    | some found =>
      obtain ⟨safe, member, rest⟩ := found
      have hargs := arguments_extends h
      simp only [hm] at hs ⊢
      cases hp : arguments p rest with
      | accept args rest' =>
        simp only [hp] at hs
        simpa only [hargs.accepts hp] using ih _ _ hs
      | refuse =>
        simp only [hp] at hs
        simpa only [hargs.refuses hp] using ih _ _ hs
      | tooDeep => simp [hp] at hs
    | none =>
      have hplace := position_extends h
      simp only [hm] at hs ⊢
      cases hp : position p s with
      | accept place rest =>
        simp only [hp] at hs
        simpa only [hplace.accepts hp] using ih _ _ hs
      | refuse => simp only [hplace.refuses hp]
      | tooDeep => simp [hp] at hs

theorem postfixed_extends (h : Extends p q) : Extends (postfixed p) (postfixed q) := fun _ =>
  andThen_extends (primary_extends h _) fun target _ => suffixesFrom_extends h _ target _

theorem unaryOver_extends (hneg : Extends negated negated') (h : Extends p q) :
    Extends (unaryOver negated p) (unaryOver negated' q) := by
  intro s hs
  simp only [unaryOver] at hs ⊢
  cases hm : mark? "!" s with
  | some rest =>
    simp only [hm] at hs
    exact map_extends (hneg rest) hs
  | none =>
    simp only [hm] at hs
    exact postfixed_extends h s hs

theorem unary_extends {m n : Nat} (hmn : m ≤ n) : Extends (unary m) (unary n) := by
  have hnone : ∀ p : Parser Expr, Extends (fun _ => .tooDeep) p := fun _ _ h => absurd rfl h
  induction m generalizing n with
  | zero => cases n <;> exact unaryOver_extends (hnone _) (hnone _)
  | succ m ih =>
    obtain ⟨n, rfl⟩ := Nat.exists_eq_add_of_le' (Nat.le_trans (Nat.le_add_left 1 m) hmn)
    have hlower := ih (Nat.le_of_succ_le_succ hmn)
    exact unaryOver_extends hlower (binaries_extends hlower)

/-- With more levels than it needs a parser does what it does with those. -/
theorem expression_extends {m n : Nat} (hmn : m ≤ n) : Extends (expression m) (expression n) :=
  binaries_extends (unary_extends hmn)

structure Fits (bound : Nat) (l : Levels) (s : List Char) : Prop where
  reached : l.weight ≤ l.deepest
  within : ((marks s).foldl Levels.step l).deepest ≤ bound

variable {N w n : Nat} {l : Levels} {ts : List Token} {s r rest : List Char}

theorem steps_reached (ts : List Token) (h : l.weight ≤ l.deepest) :
    (ts.foldl Levels.step l).weight ≤ (ts.foldl Levels.step l).deepest := by
  induction ts generalizing l with
  | nil => exact h
  | cons t ts ih => exact ih (step_reached l t)

theorem count_deepest (l : Levels) (t : Token) : (l.count t).deepest = l.deepest := by
  cases t with
  | closing =>
    rw [Levels.count]
    split <;> rfl
  | opening | operator | comma | other => rfl

theorem steps_deepest (ts : List Token) (l : Levels) :
    l.deepest ≤ (ts.foldl Levels.step l).deepest := by
  induction ts generalizing l with
  | nil => exact Nat.le_refl _
  | cons t ts ih =>
    have hstep : (l.count t).deepest ≤ (l.step t).deepest := Nat.le_max_left ..
    exact count_deepest l t ▸ Nat.le_trans hstep (ih (l.step t))

theorem Fits.weight (h : Fits N l s) : l.weight ≤ N :=
  Nat.le_trans h.reached (Nat.le_trans (steps_deepest _ _) h.within)

theorem Fits.lexes (h : Fits N l s) (hs : Lexes s ts rest) :
    Fits N (ts.foldl Levels.step l) rest := by
  refine ⟨steps_reached ts h.reached, ?_⟩
  rw [← List.foldl_append, ← lexes_marks hs]
  exact h.within

theorem Fits.raised {t : Token} (h : Fits N l s) (ht : t.raises = true) (hs : Lexes s [t] rest) :
    Fits N (l.step t) rest ∧ (l.step t).weight = l.weight + 1 := by
  refine ⟨h.lexes hs, ?_⟩
  cases t with
  | opening | operator => rfl
  | closing | comma | other => cases ht

/-- Behind an operator, at the end of a text too, the weight is no less. -/
theorem Fits.behind (h : Fits N l s) (hs : rest ≠ [] → Lexes s [.operator] rest) :
    ∃ l', Fits N l' rest ∧ l.weight ≤ l'.weight := by
  by_cases hend : rest = []
  · refine ⟨l, ⟨h.reached, ?_⟩, Nat.le_refl _⟩
    rw [hend, marks_nil]
    exact Nat.le_trans (steps_deepest _ _) h.within
  · obtain ⟨hfits, hraised⟩ := h.raised rfl (hs hend)
    exact ⟨_, hfits, by omega⟩

theorem spans_weight (hs : Spans false ts n) (hl : l.weight ≤ l.deepest) :
    l.weight ≤ (ts.foldl Levels.step l).weight := by
  obtain ⟨operators, gain, h⟩ := spans_gain hs
  rw [h l hl nofun]
  exact Nat.le_add_right ..

theorem comma_weight (hs : Spans true ts n) (hl : l.weight ≤ l.deepest) (hi : l.inner = 0) :
    ((ts ++ [Token.comma]).foldl Levels.step l).weight = l.weight := by
  obtain ⟨operators, gain, h⟩ := spans_gain hs
  rw [List.foldl_append, h l hl fun _ => hi]
  simp [Levels.step, Levels.count, hi]

/-- Where a parser comes to, the scanner comes to with a weight and no more than a bound ahead, or
else the parser is stuck. -/
def Reaches (bound weight : Nat) (s : List Char) : Prop :=
  Stuck s ∨ ∃ l, Fits bound l s ∧ weight ≤ l.weight

theorem Fits.covers (h : Fits N l s) (hw : w ≤ l.weight) (hs : Covers false s rest n) :
    Reaches N w rest :=
  hs.imp_right fun ⟨_, hts, hspans⟩ =>
    ⟨_, h.lexes hts, Nat.le_trans hw (spans_weight hspans h.reached)⟩

theorem Reaches.lexes (h : Reaches N w s) (hstuck : ¬Stuck s) (hs : Lexes s ts rest)
    (hspans : Spans false ts n) : Reaches N w rest := by
  obtain ⟨l, hl, hw⟩ := h.resolve_left hstuck
  exact hl.covers hw (.inr ⟨ts, hs, hspans⟩)

/-- A parser with some levels has enough of them wherever no more than these are left between the
weight that the scanner has counted and the bound. -/
def Suffices {α : Type} (bound levels : Nat) (p : Parser α) : Prop :=
  ∀ s l, Fits bound l s → bound < l.weight + levels → p s ≠ .tooDeep

theorem suffices_zero {α : Type} (p : Parser α) : Suffices N 0 p :=
  fun _ _ hl hn => absurd hl.weight (Nat.not_le_of_lt hn)

theorem map_deep {α β : Type} {p : Reply α} (f : α → β) (h : p ≠ .tooDeep) :
    p.map f ≠ .tooDeep := by
  cases p with
  | accept a s => exact accept_deep
  | refuse => exact refuse_deep
  | tooDeep => exact absurd rfl h

theorem closedBy_deep {α : Type} {p : Reply α} (next : List Char → Option (List Char))
    (h : p ≠ .tooDeep) : p.closedBy next ≠ .tooDeep := by
  cases p with
  | accept a s =>
    simp only [Reply.closedBy, Reply.andThen]
    split
    next => exact accept_deep
    next => exact refuse_deep
  | refuse => exact refuse_deep
  | tooDeep => exact absurd rfl h

theorem itemsFrom_suffices (hm : Measured nested) (hn : Suffices N n nested) (hl : Fits N l s)
    (hi : l.inner = 0) (hw : N < l.weight + n) (steps : Nat) {k : Nat} (hr : Covers true s r k) :
    itemsFrom nested steps r ≠ .tooDeep := by
  induction steps generalizing r k with
  | zero => exact accept_deep
  | succ steps ih =>
    rw [itemsFrom]
    split
    next => exact accept_deep
    next r' hmark =>
      obtain ⟨ts, hts, hs⟩ := covers_mark counts_comma hr hmark
      have hweight := comma_weight hs hl.reached hi
      have hitem := hn r' _ (hl.lexes hts) (by omega)
      split
      next hp => exact map_deep _ (ih (covers_item hm hr hmark hp))
      next => exact accept_deep
      next hp => exact absurd hp hitem

theorem items_suffices (hm : Measured nested) (hn : Suffices N n nested) (hl : Fits N l s)
    (hi : l.inner = 0) (hw : N < l.weight + n) : items nested s ≠ .tooDeep := by
  have hitem := hn s l hl hw
  rw [items]
  split
  next hp => exact map_deep _ (itemsFrom_suffices hm hn hl hi hw _ (covers_first hm hp))
  next => exact accept_deep
  next hp => exact absurd hp hitem

theorem between_suffices {α : Type} {left right : String} {inner : Parser α}
    (hc : Counts left .opening)
    (hi : ∀ r l, Fits N l r → l.inner = 0 → N < l.weight + n → inner r ≠ .tooDeep) :
    Suffices N (n + 1) (between left right inner) := by
  intro s l hl hw
  rw [between]
  split
  next => exact refuse_deep
  next r hmark =>
    obtain ⟨hr, hweight⟩ := hl.raised rfl (mark_lexes hc hmark)
    exact closedBy_deep _ (hi r _ hr rfl (by omega))

theorem arguments_suffices (hm : Measured nested) (hn : Suffices N n nested) :
    Suffices N (n + 1) (arguments nested) :=
  between_suffices counts_open fun _ _ hl hi hw => items_suffices hm hn hl hi hw

theorem position_suffices (hn : Suffices N n nested) : Suffices N (n + 1) (position nested) :=
  between_suffices counts_square fun r l hl _ hw => hn r l hl hw

/-- What gives a position up for its levels has found the bracket of it. -/
theorem position_unstuck (h : position nested s = .tooDeep) : ¬Stuck s := by
  rw [position] at h
  split at h
  next => cases h
  next hmark => exact mark_unstuck counts_square.toIsMark hmark

theorem named_suffices (hm : Measured nested) (hn : Suffices N n nested) :
    Suffices N (n + 1) (named nested) := by
  intro s l hl hw
  unfold named
  split
  next => exact refuse_deep
  next => exact accept_deep
  next => exact accept_deep
  next => exact accept_deep
  next name r _ _ _ hname =>
    have hargs := arguments_suffices hm hn r l (hl.lexes (name_lexes hname)) hw
    split
    next => exact accept_deep
    next => exact accept_deep
    next hdeep => exact absurd hdeep hargs

theorem literal_deep (found : Option (Value × List Char)) : literal found ≠ .tooDeep := by
  unfold literal
  split
  next => exact accept_deep
  next => exact refuse_deep

theorem primary_suffices (hm : Measured nested) (hn : Suffices N n nested) :
    Suffices N (n + 1) (primary nested) := by
  intro s l hl hw
  cases s with
  | nil => exact refuse_deep
  | cons c s =>
    rw [primary]
    split
    next => exact literal_deep _
    split
    next => exact literal_deep _
    split
    next => exact literal_deep _
    split
    next hc =>
      subst hc
      have hopen : Lexes ('[' :: s) [.opening] (skipSpace s) := .mark counts_square (space_lexes s)
      obtain ⟨hr, hweight⟩ := hl.raised rfl hopen
      exact map_deep _ (closedBy_deep _ (items_suffices hm hn hr rfl (by omega)))
    split
    next hc =>
      subst hc
      have hopen : Lexes ('(' :: s) [.opening] (skipSpace s) := .mark counts_open (space_lexes s)
      obtain ⟨hr, hweight⟩ := hl.raised rfl hopen
      exact closedBy_deep _ (hn _ _ hr (by omega))
    next => exact named_suffices hm hn _ l hl hw

theorem suffixesFrom_suffices (hm : Measured nested) (hn : Suffices N n nested)
    (hw : N < w + (n + 1)) (steps : Nat) (target : Expr) (hr : Reaches N w r) :
    suffixesFrom nested steps target r ≠ .tooDeep := by
  induction steps generalizing target r with
  | zero => exact accept_deep
  | succ steps ih =>
    rw [suffixesFrom]
    split
    next safe member r' hmember =>
      obtain ⟨hstuck, hlexes⟩ := member_counted hmember
      obtain ⟨l, hl, hweight⟩ := hr.resolve_left hstuck
      obtain ⟨hr', hraised⟩ := hl.raised rfl hlexes
      have hargs := arguments_suffices hm hn r' _ hr' (by omega)
      split
      next args r'' hp =>
        obtain ⟨us, hus, hspans⟩ := arguments_covers hm hp
        exact ih _ (hr'.covers (by omega) (.inr ⟨_, hus, .bracket .plain hspans⟩))
      next => exact ih _ (.inr ⟨_, hr', by omega⟩)
      next hp => exact absurd hp hargs
    next =>
      split
      next place r' hp =>
        obtain ⟨hstuck, us, hus, hspans⟩ := position_covers hm hp
        exact ih _ (hr.lexes hstuck hus (.bracket .plain hspans))
      next => exact accept_deep
      next hp =>
        obtain ⟨l, hl, hweight⟩ := hr.resolve_left (position_unstuck hp)
        exact absurd hp (position_suffices hn r l hl (by omega))

theorem postfixed_suffices (hm : Measured nested) (hn : Suffices N n nested) :
    Suffices N (n + 1) (postfixed nested) := by
  intro s l hl hw
  have hs := hl.lexes (space_lexes s)
  have hprimary := primary_suffices hm hn _ _ hs hw
  simp only [postfixed]
  cases hp : primary nested (skipSpace s) with
  | accept target r =>
    have hcovers := covers_space (primary_measured hm _ _ _ hp).2
    exact suffixesFrom_suffices hm hn hw _ _ (hs.covers (Nat.le_refl _) hcovers)
  | refuse => exact refuse_deep
  | tooDeep => exact absurd hp hprimary

/-- A negation in front of an equality sign is scanned as one operator with it, and nothing follows.
-/
theorem unaryOver_suffices (hneg : Suffices N n negated)
    (hsign : 0 < n → ∀ s, negated ('=' :: s) ≠ .tooDeep) (hm : Measured nested)
    (hn : Suffices N n nested) : Suffices N (n + 1) (unaryOver negated nested) := by
  intro s l hl hw
  simp only [unaryOver]
  cases hmark : mark? "!" s with
  | none => exact postfixed_suffices hm hn s l hl hw
  | some r =>
    refine map_deep _ ?_
    obtain ⟨r', hr', rfl⟩ := Option.map_eq_some_iff.mp hmark
    have hs : skipSpace s = '!' :: r' := of_after hr'
    have hl' := hs ▸ hl.lexes (space_lexes s)
    by_cases hhead : r'.head? = some '='
    · obtain ⟨r'', rfl⟩ := List.head?_eq_some_iff.mp hhead
      have hpair : Counts "!=" .operator := ⟨by decide, by decide, by decide, fun _ => rfl⟩
      have hlexes : Lexes ('!' :: '=' :: r'') [.operator] r'' := .mark hpair .done
      obtain ⟨hr, hraised⟩ := hl'.raised rfl hlexes
      have hbound := hr.weight
      have hweight : (List.foldl Levels.step l []).weight = l.weight := rfl
      exact hsign (by omega) r''
    · obtain ⟨hr, hraised⟩ := hl'.raised rfl (.negation hhead (space_lexes r'))
      have hweight : (List.foldl Levels.step l []).weight = l.weight := rfl
      exact hneg _ _ hr (by omega)

variable {operand : Parser Expr}

theorem chainFrom_suffices (hj : Joins joint?) (ho : Measured operand) (hs : Suffices N n operand)
    (hw : N < w + n) (steps : Nat) (left : Expr) (hr : Reaches N w r) :
    chainFrom joint? operand steps left r ≠ .tooDeep := by
  induction steps generalizing left r with
  | zero => exact accept_deep
  | succ steps ih =>
    rw [chainFrom]
    split
    next => exact accept_deep
    next join r' hjoin =>
      obtain ⟨hstuck, hsign, -⟩ := hj _ _ _ hjoin
      obtain ⟨l, hl, hweight⟩ := hr.resolve_left hstuck
      obtain ⟨l', hl', hweight'⟩ := hl.behind hsign
      have hoperand := hs r' l' hl' (by omega)
      split
      next hp => exact ih _ (hl'.covers (by omega) (ho _ _ _ hp).2)
      next => exact accept_deep
      next hp => exact absurd hp hoperand

theorem chain_suffices (hj : Joins joint?) (ho : Measured operand) (hs : Suffices N n operand) :
    Suffices N n (chain joint? operand) := by
  intro s l hl hw
  have hoperand := hs s l hl hw
  simp only [chain]
  cases hp : operand s with
  | accept left r =>
    exact chainFrom_suffices hj ho hs hw _ _ (hl.covers (Nat.le_refl _) (ho _ _ _ hp).2)
  | refuse => exact refuse_deep
  | tooDeep => exact absurd hp hoperand

theorem binaries_suffices (ho : Measured operand) (hs : Suffices N n operand) :
    Suffices N n (binaries operand) := by
  have hadd := chain_measured add_joins ho
  have hequality := chain_measured equality_joins hadd
  have hand := chain_measured and_joins hequality
  have hor := chain_measured or_joins hand
  exact chain_suffices elvis_joins hor
    (chain_suffices or_joins hand (chain_suffices and_joins hequality
    (chain_suffices equality_joins hadd (chain_suffices add_joins ho hs))))

theorem unary_suffices (levels : Nat) : Suffices N (levels + 1) (unary levels) := by
  induction levels with
  | zero =>
    have hsign : 0 < 0 → ∀ s : List Char, (Reply.tooDeep : Reply Expr) ≠ .tooDeep :=
      fun h => absurd h (Nat.lt_irrefl 0)
    have hm : Measured fun _ => .tooDeep := by
      intro _ _ _ h
      cases h
    exact unaryOver_suffices (suffices_zero _) hsign hm (suffices_zero _)
  | succ levels ih =>
    have hm := unary_measured levels
    refine unaryOver_suffices ih (fun _ s => ?_) (binaries_measured hm) (binaries_suffices hm ih)
    rw [unary_no_sign]
    exact refuse_deep

/-- A parser with as many levels as the nesting of a text does not use them up. -/
theorem expression_suffices (h : nesting s ≤ n) : expression n (skipSpace s) ≠ .tooDeep := by
  have hstart : Fits n Levels.start s := ⟨Nat.le_refl _, nesting_marks s ▸ h⟩
  exact binaries_suffices (unary_measured n) (unary_suffices n) _ _ (hstart.lexes (space_lexes s))
    (Nat.lt_add_left _ (Nat.lt_succ_self n))

theorem binaries_tooDeep (h : operand s = .tooDeep) : binaries operand s = .tooDeep := by
  simp [binaries, chain, h, Reply.andThen]

def OpensLevel (c : Char) : Prop := c ∈ ['(', '[', '!']

instance (c : Char) : Decidable (OpensLevel c) := inferInstanceAs (Decidable (_ ∈ _))

theorem opened_kept {c : Char} (hc : OpensLevel c) (s : List Char) :
    skipSpace (c :: s) = c :: s := by
  have hspace : ['(', '[', '!'].all (!isSpace ·) = true := by decide
  have hno := List.all_eq_true.mp hspace c hc
  simp_all [skipSpace]

/-- A bracket or a negation gives up where what it takes up gives up. -/
theorem unaryOver_opened {c : Char} (hc : OpensLevel c) (hneg : negated (skipSpace s) = .tooDeep)
    (hn : nested (skipSpace s) = .tooDeep) : unaryOver negated nested (c :: s) = .tooDeep := by
  have hkept := opened_kept hc s
  obtain rfl | rfl | rfl : c = '(' ∨ c = '[' ∨ c = '!' := by simpa [OpensLevel] using hc
  · simp [unaryOver, mark?, hkept, after?, postfixed, primary, hn, Reply.closedBy, Reply.andThen]
  · simp [unaryOver, mark?, hkept, after?, postfixed, primary, items, hn, Reply.map, Reply.closedBy,
      Reply.andThen]
  · simp [unaryOver, mark?, hkept, after?, hneg, Reply.map, Reply.andThen]

/-- A parser gives up at the first bracket or negation that is more than it has levels. -/
theorem unary_opened {u : List Char} {levels : Nat} (hu : ∀ c ∈ u, OpensLevel c)
    (hlen : u.length = levels + 1) (s : List Char) : unary levels (u ++ s) = .tooDeep := by
  induction levels generalizing u with
  | zero =>
    obtain ⟨c, rfl⟩ := List.length_eq_one_iff.mp hlen
    exact unaryOver_opened (hu c (by simp)) rfl rfl
  | succ levels ih =>
    match u, hlen with
    | c :: d :: u, hlen =>
      obtain ⟨hc, hrest⟩ := List.forall_mem_cons.mp hu
      have hkept : skipSpace (d :: u ++ s) = d :: u ++ s := opened_kept (hrest d (by simp)) (u ++ s)
      have hdeep := hkept.symm ▸ ih hrest (Nat.succ.inj hlen)
      exact unaryOver_opened hc hdeep (binaries_tooDeep hdeep)

theorem tokens_length (s : List Char) : (tokens s).length ≤ s.length := by
  fun_induction tokens s with
  | case1 => exact Nat.zero_le _
  | case2 s t rest h ih => exact Nat.succ_le_of_lt (Nat.lt_of_le_of_lt ih (Token.next?_shorter h))

theorem count_weight (l : Levels) (t : Token) : (l.count t).weight ≤ l.weight + 1 := by
  cases t with
  | closing =>
    rw [Levels.count]
    split
    next => exact Nat.le_succ _
    next => exact Nat.le_succ_of_le (Nat.sub_le ..)
  | comma => exact Nat.le_succ_of_le (Nat.sub_le ..)
  | other => exact Nat.le_succ _
  | opening | operator => exact Nat.le_refl _

theorem steps_bound (ts : List Token) (l : Levels) :
    (ts.foldl Levels.step l).deepest ≤ max l.deepest (l.weight + ts.length) := by
  induction ts generalizing l with
  | nil => exact Nat.le_max_left ..
  | cons t ts ih =>
    have hrest := ih (l.step t)
    have hweight := count_weight l t
    simp only [Levels.step, count_deepest, List.length_cons, List.foldl_cons] at hrest ⊢
    omega

theorem nesting_le_length (s : List Char) : nesting s ≤ s.length := by
  have hbound := steps_bound (tokens s) Levels.start
  have hlength := tokens_length s
  simp only [Levels.start] at hbound
  rw [nesting]
  exact Nat.le_trans hbound (by omega)

theorem parseWithin_levels {m n : Nat} (hmn : m ≤ n) (h : nesting s ≤ m) :
    parseWithin n s = parseWithin m s := by
  rw [parseWithin, parseWithin, expression_extends hmn _ (expression_suffices h)]
  cases hp : expression m (skipSpace s) with
  | accept | refuse => rfl
  | tooDeep => exact absurd hp (expression_suffices h)

/-- Behind the check of the nesting no alternative of the parser goes beyond the limit: with the
limit as its allowance, at which it gives up for good, it reads every text as it does with any
greater one. It does give up at the first level beyond the limit. -/
theorem limit_allows_levels (text : String) (h : nesting text.toList ≤ maxNesting) :
    expression maxNesting (skipSpace text.toList) ≠ .tooDeep ∧
      parse text = parseWithin maxNesting text.toList ∧
      (∀ levels, maxNesting ≤ levels → parseWithin levels text.toList = parse text) ∧
      ∀ u s levels, (∀ c ∈ u, OpensLevel c) → u.length = levels + 1 →
        expression levels (u ++ s) = .tooDeep := by
  have hparse : parse text = parseWithin maxNesting text.toList := by
    rw [parse, if_neg (Nat.not_lt.mpr h)]
    rcases Nat.le_total maxNesting text.toList.length with hle | hle
    · exact parseWithin_levels hle h
    · exact (parseWithin_levels hle (nesting_le_length _)).symm
  refine ⟨expression_suffices h, hparse, fun levels hle => ?_, fun u s levels hu hlen => ?_⟩
  · rw [hparse, parseWithin_levels hle h]
  · exact binaries_tooDeep (unary_opened hu hlen s)

theorem limit_allows_levels_unclosed :
    let s := List.replicate 62 '!' ++ "[(a, 'b".toList
    nesting s = maxNesting ∧ expression maxNesting (skipSpace s) ≠ .tooDeep ∧
      expression (maxNesting - 1) (skipSpace s) = .tooDeep ∧
      parse (String.ofList s) = parseWithin maxNesting s := by
  intro s
  have hnesting : nesting s = maxNesting := by decide +kernel
  have hlimit := limit_allows_levels (String.ofList s) (by rw [String.toList_ofList, hnesting])
  rw [String.toList_ofList] at hlimit
  obtain ⟨hdeep, hparse, -, hopened⟩ := hlimit
  have hopens : ∀ c ∈ List.replicate 62 '!' ++ ['[', '('], OpensLevel c := by
    simp [OpensLevel]
  have hbeyond := hopened _ "a, 'b".toList (maxNesting - 1) hopens (by simp [maxNesting])
  have hskip : skipSpace s =
      List.replicate 62 '!' ++ ['[', '('] ++ "a, 'b".toList := by decide +kernel
  exact ⟨hnesting, hdeep, hskip ▸ hbeyond, hparse⟩

end ActionDispatch.Script
