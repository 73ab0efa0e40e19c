import ActionDispatch.Proofs.Script.Evaluation
import ActionDispatch.Proofs.Script.Height

/-!
# Names of parsed trees

A tree names nothing that its text does not spell. Shown one parser after the other, with what each
of them leaves of the text.
-/

set_option autoImplicit false

namespace ActionDispatch.Script
open Text

variable {s r rest : List Char}

theorem lexes_suffix {ts : List Token} (h : Lexes s ts rest) : rest <:+ s := by
  induction h with
  | done => exact List.suffix_rfl
  | plain _ _ ih => exact ih.trans (List.suffix_cons _ _)
  | mark _ _ ih => exact ih.trans (List.suffix_append _ _)
  | bars _ _ ih => exact ih.trans (List.suffix_append ['|', '|'] _)
  | negation _ _ ih => exact ih.trans (List.suffix_cons _ _)
  | @string q s r content rest ts hq hs _ _ ih =>
    obtain ⟨y, rfl⟩ := string_closes hs
    exact ih.trans ⟨q :: (y ++ [q]), by simp⟩

theorem space_suffix (s : List Char) : skipSpace s <:+ s := List.dropWhile_suffix isSpace

theorem mark_suffix {mark : String} (h : mark? mark s = some rest) : rest <:+ s := by
  obtain ⟨r, hr, rfl⟩ := Option.map_eq_some_iff.mp h
  have hmark : r <:+ skipSpace s := ⟨mark.toList, (of_after hr).symm⟩
  exact (space_suffix r).trans (hmark.trans (space_suffix s))

theorem member_suffix {safe : Bool} {member : String} (h : member? s = some (safe, member, rest)) :
    rest <:+ s := lexes_suffix (member_counted h).2

theorem name_spelled {name : String} (h : name? s = some (name, rest)) :
    s = name.toList ++ rest := by
  cases s with
  | nil => cases h
  | cons c s =>
    simp only [name?] at h
    split at h
    next =>
      obtain ⟨rfl, rfl⟩ := Prod.mk.inj (Option.some.inj h)
      simp [List.takeWhile_append_dropWhile]
    next => cases h

structure Sources (s rest : List Char) (trees : List Expr) : Prop where
  suffix : rest <:+ s
  spelled : ∀ word, .name word ∈ trees → word.toList <:+: s

theorem Sources.left (h : rest <:+ s) : Sources s rest [] := ⟨h, nofun⟩

theorem Sources.append {trees trees' : List Expr} (h : Sources s r trees)
    (h' : Sources r rest trees') : Sources s rest (trees ++ trees') where
  suffix := h'.suffix.trans h.suffix
  spelled word hword := (List.mem_append.mp hword).elim (h.spelled word)
    fun hlater => (h'.spelled word hlater).trans h.suffix.isInfix

theorem Sources.names {trees trees' : List Expr} (h : Sources s rest trees)
    (hsub : ∀ word, .name word ∈ trees' → .name word ∈ trees) : Sources s rest trees' :=
  ⟨h.suffix, fun word hword => h.spelled word (hsub word hword)⟩

theorem Sources.ahead {trees : List Expr} (h : Sources r rest trees) (hr : r <:+ s) :
    Sources s rest trees :=
  Sources.append (.left hr) h

theorem Sources.behind {trees : List Expr} (h : Sources s r trees) (hr : rest <:+ r) :
    Sources s rest trees :=
  (h.append (.left hr)).names fun word hword => by simpa using hword

def Sourced (p : Parser Expr) : Prop :=
  ∀ s e rest, p s = .accept e rest → Sources s rest e.subtrees

section

variable {nested : Parser Expr}

theorem itemsFrom_sources (hn : Sourced nested) (steps : Nat) {es : List Expr}
    (h : itemsFrom nested steps s = .accept es rest) : Sources s rest (subtreesOf es) := by
  induction steps generalizing s es with
  | zero =>
    cases h
    exact .left List.suffix_rfl
  | succ steps ih =>
    rw [itemsFrom] at h
    split at h
    next =>
      cases h
      exact .left List.suffix_rfl
    next r hm =>
      split at h
      next first r' hfirst =>
        obtain ⟨others, hothers, rfl⟩ := map_accepts h
        exact ((hn _ _ _ hfirst).ahead (mark_suffix hm)).append (ih hothers)
      next =>
        cases h
        exact .left List.suffix_rfl
      next => cases h

theorem items_sources (hn : Sourced nested) {es : List Expr}
    (h : items nested s = .accept es rest) : Sources s rest (subtreesOf es) := by
  rw [items] at h
  split at h
  next first r hfirst =>
    obtain ⟨others, hothers, rfl⟩ := map_accepts h
    exact (hn _ _ _ hfirst).append (itemsFrom_sources hn _ hothers)
  next =>
    cases h
    exact .left List.suffix_rfl
  next => cases h

theorem arguments_sources (hn : Sourced nested) {args : List Expr}
    (h : arguments nested s = .accept args rest) : Sources s rest (subtreesOf args) := by
  obtain ⟨r, r', hm, hitems, hclose⟩ := between_accepts (arguments_between nested ▸ h)
  exact ((items_sources hn hitems).ahead (mark_suffix hm)).behind (mark_suffix hclose)

theorem position_sources (hn : Sourced nested) {e : Expr}
    (h : position nested s = .accept e rest) : Sources s rest e.subtrees := by
  obtain ⟨r, r', hm, hplace, hclose⟩ := between_accepts (position_between nested ▸ h)
  exact ((hn _ _ _ hplace).ahead (mark_suffix hm)).behind (mark_suffix hclose)

theorem literal_sources {e : Expr} {found : Option (Value × List Char)}
    (hf : ∀ v r, found = some (v, r) → r <:+ s) (h : literal found = .accept e rest) :
    Sources s rest e.subtrees := by
  unfold literal at h
  split at h
  next v r =>
    cases h
    exact (Sources.left (hf v rest rfl)).names fun word hword => by simp [Expr.subtrees] at hword
  next => cases h

theorem number_suffix {negative : Bool} {v : Value} (h : number? negative s = some (v, rest)) :
    rest <:+ s :=
  (number_lexes h).elim lexes_suffix lexes_suffix

theorem named_sourced (hn : Sourced nested) : Sourced (named nested) := by
  intro s e rest h
  have hliteral : ∀ {v : Value} {name : String}, name? s = some (name, rest) →
      Sources s rest (Expr.literal v).subtrees := fun hname =>
    (Sources.left (lexes_suffix (name_lexes hname))).names fun word hword => by
      simp [Expr.subtrees] at hword
  unfold named at h
  split at h
  next => cases h
  next hname =>
    cases h
    exact hliteral hname
  next hname =>
    cases h
    exact hliteral hname
  next hname =>
    cases h
    exact hliteral hname
  next name r _ _ _ hname =>
    obtain rfl := name_spelled hname
    split at h
    next args r' hargs =>
      cases h
      refine ((arguments_sources hn hargs).ahead (List.suffix_append _ _)).names
        fun word hword => ?_
      simpa [Expr.subtrees] using hword
    next =>
      cases h
      refine ⟨List.suffix_append _ _, fun word hword => ?_⟩
      obtain rfl : word = name := by simpa [Expr.subtrees] using hword
      exact (List.prefix_append _ _).isInfix
    next => cases h

theorem primary_sourced (hn : Sourced nested) : Sourced (primary nested) := by
  intro s e rest h
  cases s with
  | nil => cases h
  | cons c s =>
    have hbehind : s <:+ c :: s := List.suffix_cons c s
    rw [primary] at h
    split at h
    next => exact literal_sources (fun _ _ => number_suffix) h
    split at h
    next => exact literal_sources (fun _ _ hv => (number_suffix hv).trans hbehind) h
    split at h
    next =>
      refine literal_sources (fun v r hv => ?_) h
      obtain ⟨⟨content, r'⟩, hstring, heq⟩ := Option.map_eq_some_iff.mp hv
      obtain ⟨-, rfl⟩ := Prod.mk.inj heq
      obtain ⟨y, rfl⟩ := string_closes hstring
      exact ⟨c :: (y ++ [c]), by simp⟩
    split at h
    next =>
      obtain ⟨items, hitems, rfl⟩ := map_accepts h
      obtain ⟨r, hread, hclose⟩ := closedBy_accepts hitems
      have hlist := (items_sources hn hread).ahead ((space_suffix s).trans hbehind)
      refine (hlist.behind (mark_suffix hclose)).names fun word hword => ?_
      simpa [Expr.subtrees] using hword
    split at h
    next =>
      obtain ⟨r, hread, hclose⟩ := closedBy_accepts h
      exact ((hn _ _ _ hread).ahead ((space_suffix s).trans hbehind)).behind (mark_suffix hclose)
    next => exact named_sourced hn _ _ _ h

theorem suffixesFrom_sources (hn : Sourced nested) (steps : Nat) {target e : Expr}
    (ht : Sources s r target.subtrees) (h : suffixesFrom nested steps target r = .accept e rest) :
    Sources s rest e.subtrees := by
  induction steps generalizing target r with
  | zero =>
    cases h
    exact ht
  | succ steps ih =>
    rw [suffixesFrom] at h
    split at h
    next safe member r' hm =>
      have hmember := ht.behind (member_suffix hm)
      split at h
      next args r'' hargs =>
        refine ih ((hmember.append (arguments_sources hn hargs)).names fun word hword => ?_) h
        simpa [Expr.subtrees] using hword
      next =>
        refine ih (hmember.names fun word hword => ?_) h
        simpa [Expr.subtrees] using hword
      next => cases h
    next =>
      split at h
      next place r' hplace =>
        refine ih ((ht.append (position_sources hn hplace)).names fun word hword => ?_) h
        simpa [Expr.subtrees] using hword
      next =>
        cases h
        exact ht
      next => cases h

theorem postfixed_sourced (hn : Sourced nested) : Sourced (postfixed nested) := by
  intro s e rest h
  obtain ⟨target, r, hprimary, hsuffixes⟩ := andThen_accepts h
  have htarget := (primary_sourced hn _ _ _ hprimary).ahead (space_suffix s)
  exact suffixesFrom_sources hn _ (htarget.behind (space_suffix r)) hsuffixes

end

def JoinsNames (joint? : JointParser) : Prop :=
  ∀ s join rest, joint? s = some (join, rest) → rest <:+ s ∧
    ∀ (left right : Expr) word, .name word ∈ (join left right).subtrees →
      .name word ∈ left.subtrees ++ right.subtrees

theorem joint_names {mark : String} {join : Joint}
    (hj : ∀ (left right : Expr) word, .name word ∈ (join left right).subtrees →
      .name word ∈ left.subtrees ++ right.subtrees) : JoinsNames (joint? mark join) := by
  intro s join' rest h
  obtain ⟨r, hr, heq⟩ := Option.map_eq_some_iff.mp h
  obtain ⟨rfl, rfl⟩ := Prod.mk.inj heq
  exact ⟨mark_suffix hr, hj⟩

theorem binary_names (mark : String) (op : BinaryOp) : JoinsNames (joint? mark (.binary op)) :=
  joint_names fun left right word hword => by simpa [Expr.subtrees] using hword

theorem elvis_names : JoinsNames elvisJoint? :=
  joint_names fun left right word hword => by simpa [Expr.subtrees] using hword

theorem equality_names : JoinsNames equalityJoint? := by
  intro s join rest h
  unfold equalityJoint? at h
  split at h
  next hfound =>
    cases h
    exact binary_names "==" .eq _ _ _ hfound
  next => exact binary_names "!=" .ne _ _ _ h

section

variable {operand : Parser Expr} {joint? : JointParser}

theorem chainFrom_sources (hj : JoinsNames joint?) (ho : Sourced operand) (steps : Nat)
    {left e : Expr} (hl : Sources s r left.subtrees)
    (h : chainFrom joint? operand steps left r = .accept e rest) : Sources s rest e.subtrees := by
  induction steps generalizing left r with
  | zero =>
    cases h
    exact hl
  | succ steps ih =>
    rw [chainFrom] at h
    split at h
    next =>
      cases h
      exact hl
    next join r' hjoin =>
      obtain ⟨hsuffix, hnames⟩ := hj _ _ _ hjoin
      split at h
      next right r'' hright =>
        exact ih (((hl.behind hsuffix).append (ho _ _ _ hright)).names (hnames left right)) h
      next =>
        cases h
        exact hl
      next => cases h

theorem chain_sourced (hj : JoinsNames joint?) (ho : Sourced operand) :
    Sourced (chain joint? operand) := by
  intro s e rest h
  obtain ⟨left, r, hleft, hchain⟩ := andThen_accepts h
  exact chainFrom_sources hj ho _ (ho _ _ _ hleft) hchain

theorem binaries_sourced (ho : Sourced operand) : Sourced (binaries operand) :=
  chain_sourced elvis_names (chain_sourced (binary_names "||" .or)
    (chain_sourced (binary_names "&&" .and) (chain_sourced equality_names
      (chain_sourced (binary_names "+" .add) ho))))

end

theorem unaryOver_sourced {negated nested : Parser Expr} (hneg : Sourced negated)
    (hn : Sourced nested) : Sourced (unaryOver negated nested) := by
  intro s e rest h
  unfold unaryOver at h
  split at h
  next r hm =>
    obtain ⟨operand, hoperand, rfl⟩ := map_accepts h
    refine ((hneg _ _ _ hoperand).ahead (mark_suffix hm)).names fun word hword => ?_
    simpa [Expr.subtrees] using hword
  next => exact postfixed_sourced hn _ _ _ h

theorem unary_sourced (levels : Nat) : Sourced (unary levels) := by
  induction levels with
  | zero => exact unaryOver_sourced nofun nofun
  | succ levels ih => exact unaryOver_sourced ih (binaries_sourced ih)

/-- Every name of a parsed tree stands in the text. -/
theorem parse_names {text word : String} {e : Expr} (h : parse text = .ok e)
    (hword : .name word ∈ e.subtrees) : word.toList <:+: text.toList := by
  simp only [parse, parseWithin] at h
  split at h
  next => cases h
  next =>
    split at h
    next e' rest hread =>
      split at h
      next =>
        cases h
        have hsources := binaries_sourced (unary_sourced _) _ _ _ hread
        exact (hsources.spelled word hword).trans (space_suffix _).isInfix
      next => cases h
    next => cases h
    next => cases h

end ActionDispatch.Script
