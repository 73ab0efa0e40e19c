import ActionDispatch.Proofs.Script.Height
import ActionDispatch.Proofs.Script.MethodCall
import ActionDispatch.Proofs.Script.Names

/-!
# Where trees begin

Parsers go on with what they have read and never take it back: whatever is accepted begins with what
was read first. So a call that is read of a path and an argument list has the arguments that are
read behind the path, and these begin with what is read first of each of them.
-/

set_option autoImplicit false

namespace ActionDispatch.Script
open Text

/-- A tree begins with a tree where its targets and left operands lead to it. -/
inductive Begins (x : Expr) : Expr → Prop where
  | refl : Begins x x
  | property {target : Expr} {member : String} {safe : Bool} : Begins x target →
      Begins x (.property target member safe)
  | index {target position : Expr} : Begins x target → Begins x (.index target position)
  | invoke {target : Expr} {method : String} {args : List Expr} {safe : Bool} : Begins x target →
      Begins x (.invoke target method args safe)
  | binary {op : BinaryOp} {left right : Expr} : Begins x left → Begins x (.binary op left right)
  | elvis {left right : Expr} : Begins x left → Begins x (.elvis left right)

theorem begins_height {x e : Expr} (h : Begins x e) : x.height ≤ e.height := by
  induction h with
  | refl => exact Nat.le_refl _
  | property _ ih | index _ ih | invoke _ ih | binary _ ih | elvis _ ih =>
    simp only [Expr.height]
    omega

theorem begins_literal {v w : Value} (h : Begins (.literal v) (.literal w)) : v = w := by
  cases h
  rfl

def BeginsWith (p : Parser Expr) (s : List Char) (P : Expr → Prop) : Prop :=
  ∀ e rest, p s = .accept e rest → ∃ x, P x ∧ Begins x e

variable {P : Expr → Prop} {Q : List Expr → Prop} {nested : Parser Expr} {s rest : List Char}

theorem suffixesFrom_begins {x target e : Expr} (steps : Nat) (hx : Begins x target)
    (h : suffixesFrom nested steps target s = .accept e rest) : Begins x e := by
  induction steps generalizing target s with
  | zero =>
    cases h
    exact hx
  | succ steps ih =>
    rw [suffixesFrom] at h
    split at h
    next =>
      split at h
      next => exact ih (.invoke hx) h
      next => exact ih (.property hx) h
      next => cases h
    next =>
      split at h
      next => exact ih (.index hx) h
      next =>
        cases h
        exact hx
      next => cases h

theorem primary_begins {x : Expr} {r : List Char} (hx : P x)
    (hp : primary nested (skipSpace s) = .accept x r) : BeginsWith (postfixed nested) s P := by
  intro e rest h
  obtain ⟨target, r', hprimary, hsuffixes⟩ := andThen_accepts h
  rw [hp] at hprimary
  cases hprimary
  exact ⟨x, hx, suffixesFrom_begins _ .refl hsuffixes⟩

def KeepsLeft (joint? : JointParser) : Prop :=
  ∀ s join rest, joint? s = some (join, rest) → ∀ x left right : Expr, Begins x left →
    Begins x (join left right)

theorem joint_keeps {mark : String} {join : Joint}
    (hj : ∀ x left right : Expr, Begins x left → Begins x (join left right)) :
    KeepsLeft (joint? mark join) := by
  intro s join' rest h
  obtain ⟨r, -, heq⟩ := Option.map_eq_some_iff.mp h
  cases heq
  exact hj

theorem equality_keeps : KeepsLeft equalityJoint? := by
  intro s join rest h
  unfold equalityJoint? at h
  split at h
  next hfound =>
    cases h
    exact joint_keeps (fun _ _ _ => .binary) _ _ _ hfound
  next => exact joint_keeps (fun _ _ _ => .binary) _ _ _ h

theorem chainFrom_begins {joint? : JointParser} {operand : Parser Expr} {x left e : Expr}
    (hj : KeepsLeft joint?) (steps : Nat) (hx : Begins x left)
    (h : chainFrom joint? operand steps left s = .accept e rest) : Begins x e := by
  induction steps generalizing left s with
  | zero =>
    cases h
    exact hx
  | succ steps ih =>
    rw [chainFrom] at h
    split at h
    next =>
      cases h
      exact hx
    next join r hjoin =>
      split at h
      next => exact ih (hj _ _ _ hjoin _ _ _ hx) h
      next =>
        cases h
        exact hx
      next => cases h

theorem chain_begins {joint? : JointParser} {operand : Parser Expr} (hj : KeepsLeft joint?)
    (ho : BeginsWith operand s P) : BeginsWith (chain joint? operand) s P := by
  intro e rest h
  obtain ⟨left, r, hleft, hchain⟩ := andThen_accepts h
  obtain ⟨x, hx, hb⟩ := ho _ _ hleft
  exact ⟨x, hx, chainFrom_begins hj _ hb hchain⟩

theorem expression_begins {levels : Nat} (hno : mark? "!" s = none)
    (h : BeginsWith (postfixed (expression levels)) s P) :
    BeginsWith (expression (levels + 1)) s P := by
  have hu : BeginsWith (unary (levels + 1)) s P := by
    intro e rest hread
    simp only [unary, unaryOver, hno] at hread
    exact h _ _ hread
  have hbinary : ∀ op mark, KeepsLeft (joint? mark (.binary op)) :=
    fun _ _ => joint_keeps fun _ _ _ => .binary
  have helvis : KeepsLeft elvisJoint? := joint_keeps fun _ _ _ => .elvis
  exact chain_begins helvis (chain_begins (hbinary .or "||") (chain_begins (hbinary .and "&&")
    (chain_begins equality_keeps (chain_begins (hbinary .add "+") hu))))

def FirstBegins (P : Expr → Prop) (args : List Expr) : Prop :=
  ∀ e ∈ args.head?, ∃ x, P x ∧ Begins x e

theorem first_begins {first : Expr} {s rest : List Char} (hb : BeginsWith nested s P)
    (h : nested s = .accept first rest) (others : List Expr) :
    FirstBegins P (first :: others) := by
  intro e he
  obtain rfl : first = e := by simpa using he
  exact hb _ _ h

theorem arguments_begin {us : List Word} {args : List Expr}
    (hb : ∀ r, Ahead us r → BeginsWith nested r P)
    (hs : Ahead (['('] :: us) s) (h : arguments nested s = .accept args rest) :
    FirstBegins P args := by
  obtain ⟨r, hm, hr⟩ := mark_found "(" rfl hs
  simp only [arguments, hm] at h
  obtain ⟨r', hitems, -⟩ := closedBy_accepts h
  rw [items] at hitems
  split at hitems
  next first r'' hfirst =>
    obtain ⟨others, -, rfl⟩ := map_accepts hitems
    exact first_begins (hb _ (ahead_skip hr)) hfirst others
  next =>
    cases hitems
    simp [FirstBegins]
  next => cases hitems

theorem itemsFrom_begin {us : List Word} {args : List Expr} (steps : Nat)
    (hb : ∀ r, Ahead us r → BeginsWith nested r P) (hs : Ahead ([','] :: us) s)
    (h : itemsFrom nested steps s = .accept args rest) : FirstBegins P args := by
  obtain ⟨r, hm, hr⟩ := mark_found "," rfl hs
  cases steps with
  | zero =>
    cases h
    simp [FirstBegins]
  | succ steps =>
    simp only [itemsFrom, hm] at h
    split at h
    next first r' hfirst =>
      obtain ⟨others, -, rfl⟩ := map_accepts h
      exact first_begins (hb _ (ahead_skip hr)) hfirst others
    next =>
      cases h
      simp [FirstBegins]
    next => cases h

/-- Where the first argument is read up to a comma, there is one, and the second is read first
behind it. -/
theorem arguments_behind {us vs : List Word} {first : Expr} {args : List Expr}
    (hfirst : ∀ r, Ahead (us ++ [','] :: vs) r → Accepts nested first ([','] :: vs) r)
    (hb : ∀ r, Ahead vs r → BeginsWith nested r P)
    (hs : Ahead (['('] :: (us ++ [','] :: vs)) s) (h : arguments nested s = .accept args rest) :
    ∃ others, args = first :: others ∧ FirstBegins P others := by
  obtain ⟨r, hm, hr⟩ := mark_found "(" rfl hs
  simp only [arguments, hm] at h
  obtain ⟨r', hitems, -⟩ := closedBy_accepts h
  obtain ⟨r'', hread, hr''⟩ := hfirst _ (ahead_skip hr)
  simp only [items, hread] at hitems
  obtain ⟨others, hothers, rfl⟩ := map_accepts hitems
  exact ⟨others, rfl, itemsFrom_begin _ hb hr'' hothers⟩

def CallOrPath (first : String) (members : List String) (Q : List Expr → Prop) (x : Expr) : Prop :=
  x = pathOf first members ∨ ∃ args, Q args ∧ x = callOf first members args

theorem call_begins {levels : Nat} {first : String} {members : List String} {us : List Word}
    (hf : isFreeName first = true) (hm : ∀ member ∈ members, isName member.toList = true)
    (hlen : (pathWords first members).length ≤ levels + 1)
    (hargs : ∀ r args rest, Ahead (['('] :: us) r →
      arguments (expression levels) r = .accept args rest → Q args)
    (h : Ahead (pathWords first members ++ ['('] :: us) s) :
    BeginsWith (postfixed (expression levels)) s (CallOrPath first members Q) := by
  rcases List.eq_nil_or_concat members with rfl | ⟨init, method, rfl⟩
  · obtain ⟨r, hs, hr⟩ := ahead_cons h
    have hname : isName first.toList = true := by simp_all [isFreeName]
    have hread := named_free (expression levels) hf (bracket_name_ends hr)
    rw [← name_primary _ hname, ← hs] at hread
    cases ha : arguments (expression levels) r with
    | accept args r' =>
      rw [ha] at hread
      exact primary_begins (.inr ⟨args, hargs _ _ _ hr ha, rfl⟩) hread
    | refuse =>
      rw [ha] at hread
      exact primary_begins (.inl rfl) hread
    | tooDeep =>
      rw [ha] at hread
      intro e rest hp
      simp [postfixed, hread, Reply.andThen] at hp
  · rw [List.concat_eq_append] at hm hlen h ⊢
    have hmethod : isName method.toList = true := hm method (by simp)
    have hw : (pathOf first init).writable = true :=
      path_writable hf fun m hmem => hm m (by simp [hmem])
    rw [pathWords_concat, ← path_within, List.append_assoc] at h
    rw [pathWords_concat, ← path_within, List.length_append] at hlen
    have harr : Arrives levels 0 (pathOf first init) _ s :=
      within_arrives (writable_legible _ hw) hw (by decide) (by omega) (.member false hmethod) h
    obtain ⟨r, steps, hp, hsteps, hr⟩ := harr
    obtain ⟨k, rfl⟩ : ∃ k, steps = k + 1 := Nat.exists_eq_add_of_le' (Nat.le_trans (by simp) hsteps)
    obtain ⟨r', hmember, hahead⟩ := member_read false hmethod (fun _ => bracket_name_ends) hr
    rw [String.ofList_toList] at hmember
    intro e rest hread
    have hread : suffixesFrom (expression levels) (k + 1) (pathOf first init) r = .accept e rest :=
      hp.symm.trans hread
    simp only [suffixesFrom, hmember] at hread
    split at hread
    next args r'' ha =>
      exact ⟨_, .inr ⟨args, hargs _ _ _ hahead ha, (call_concat ..).symm⟩,
        suffixesFrom_begins _ .refl hread⟩
    next => exact ⟨_, .inl (path_concat ..).symm, suffixesFrom_begins _ .refl hread⟩
    next => cases hread

/-- A call of a path begins with a call of the path only where these are the same. -/
theorem call_itself {first : String} {members : List String} {args : List Expr}
    (h : ∃ x, CallOrPath first members Q x ∧ Begins x (callOf first members args)) : Q args := by
  obtain ⟨x, hx, hb⟩ := h
  rcases List.eq_nil_or_concat members with rfl | ⟨init, method, rfl⟩
  · rcases hx with rfl | ⟨args', hargs, rfl⟩
    · cases hb
    · cases hb
      exact hargs
  · rw [List.concat_eq_append] at hx hb
    simp only [CallOrPath, path_concat, call_concat] at hx hb
    -- what is longer than the target does not lead to the target
    rcases hx with rfl | ⟨args', hargs, rfl⟩
    · cases hb with
      | invoke hb =>
        have hheight := begins_height hb
        simp only [Expr.height] at hheight
        omega
    · cases hb with
      | refl => exact hargs
      | invoke hb =>
        have hheight := begins_height hb
        simp only [Expr.height] at hheight
        omega

theorem parse_reads {text : String} {e : Expr} (h : parse text = .ok e) :
    ∃ rest, expression text.toList.length (skipSpace text.toList) = .accept e rest := by
  simp only [parse, parseWithin] at h
  split at h
  next => cases h
  next =>
    split at h
    next e' rest hread =>
      split at h
      next =>
        cases h
        exact ⟨rest, hread⟩
      next => cases h
    next => cases h
    next => cases h

/-- The arguments of a whole call are those that are read behind its path. -/
theorem parsed_arguments {text first : String} {members : List String} {t : Word} {us : List Word}
    {args : List Expr} (hf : isFreeName first = true)
    (hm : ∀ member ∈ members, isName member.toList = true)
    (hahead : Ahead (pathWords first members ++ ['('] :: t :: us) text.toList)
    (hargs : ∀ levels r args rest, Ahead (['('] :: t :: us) r →
      arguments (expression (levels + 1)) r = .accept args rest → Q args)
    (h : parse text = .ok (callOf first members args)) : Q args := by
  obtain ⟨levels, hlevels, hcount, hno, hskip⟩ := call_in_front hf hahead
  obtain ⟨rest, hread⟩ := parse_reads h
  rw [hlevels] at hread
  exact call_itself
    (expression_begins hno (call_begins hf hm (by omega) (hargs levels) hskip) _ _ hread)

def Curtailed (t : List Char) (x : Expr) : Prop :=
  ∃ content, content ≠ t ∧ x = .literal (.string (String.ofList content))

theorem curtailed_argument {text : String} {args : List Expr}
    (h : FirstBegins (Curtailed text.toList) (.literal (.string text) :: args)) : False := by
  obtain ⟨x, ⟨content, hne, rfl⟩, hb⟩ := h _ rfl
  have hsame : String.ofList content = text := Value.string.inj (begins_literal hb)
  exact hne (by rw [← hsame, String.toList_ofList])

section

variable {w r : List Char}

def CallsOnly (w : List Char) (e : Expr) : Prop :=
  ∀ function args, e = .call function args → function.toList = w

theorem name_no_bracket {name : String} (h : name? s = some (name, rest)) : '(' ∉ name.toList := by
  cases s with
  | nil => cases h
  | cons c s =>
    simp only [name?] at h
    split at h
    next hc =>
      obtain ⟨rfl, -⟩ := Prod.mk.inj (Option.some.inj h)
      rw [String.toList_ofList, List.mem_cons, not_or]
      refine ⟨fun heq => ?_, fun hmem => ?_⟩
      · rw [← heq] at hc
        exact absurd hc (by decide)
      · exact absurd (List.mem_takeWhile_imp hmem) (by decide)
    next => cases h

theorem arguments_open {args : List Expr} (h : arguments nested s = .accept args rest) :
    ∃ r, skipSpace s = '(' :: r := by
  obtain ⟨_, _, hm, -, -⟩ := between_accepts (arguments_between nested ▸ h)
  obtain ⟨r, hr, -⟩ := Option.map_eq_some_iff.mp hm
  exact ⟨r, of_after hr⟩

theorem skip_word {c : Char} (hc : isWordChar c = true) (s : List Char) :
    skipSpace (c :: s) = c :: s := by
  refine List.dropWhile_cons_of_neg fun hspace => ?_
  have hno := space_holds (!isWordChar ·) (by decide) hspace
  simp [hc] at hno

/-- Neither does a name go on beyond the parenthesis, nor are arguments read in front of it. -/
theorem named_word {e : Expr} (hw : ∀ c ∈ w, isWordChar c = true)
    (h : named nested (w ++ '(' :: r) = .accept e rest) : CallsOnly w e := by
  rintro function args rfl
  unfold named at h
  split at h
  iterate 4 next => cases h
  next name behind _ _ _ hname =>
    split at h
    next hargs =>
      cases h
      obtain ⟨q, hq⟩ := arguments_open hargs
      rcases List.append_eq_append_iff.mp (name_spelled hname) with ⟨more, hmore, hr⟩ |
        ⟨more, rfl, rfl⟩
      · cases more with
        | nil => simpa using hmore
        | cons c more =>
          obtain ⟨rfl, -⟩ := List.cons.inj hr
          exact absurd (by simp [hmore]) (name_no_bracket hname)
      · cases more with
        | nil => simp
        | cons c more =>
          have hc : isWordChar c = true := hw c (by simp)
          rw [List.cons_append, skip_word hc] at hq
          obtain ⟨rfl, -⟩ := List.cons.inj hq
          exact absurd hc (by decide)
    next => cases h
    next => cases h

theorem literal_calls {found : Option (Value × List Char)} {e : Expr}
    (h : literal found = .accept e rest) : CallsOnly w e := by
  rintro function args rfl
  unfold literal at h
  split at h <;> cases h

theorem primary_word {e : Expr} (hne : w ≠ []) (hw : ∀ c ∈ w, isWordChar c = true)
    (h : primary nested (w ++ '(' :: r) = .accept e rest) : CallsOnly w e := by
  obtain ⟨c, w, rfl⟩ := List.exists_cons_of_ne_nil hne
  have hmarks : ∀ d ∈ ['-', '"', '\'', '[', '('], c ≠ d := by
    rintro d hd rfl
    have hall : ['-', '"', '\'', '[', '('].all (!isWordChar ·) = true := by decide
    have hno := List.all_eq_true.mp hall c hd
    simp [hw c (by simp)] at hno
  simp only [List.forall_mem_cons] at hmarks
  rw [List.cons_append, primary] at h
  split at h
  next => exact literal_calls h
  next =>
    simp only [hmarks, if_false, or_self] at h
    exact named_word hw h

/-- A parsed call has the name of the word in front of the first parenthesis, if there is no more in
front of it. -/
theorem parsed_word {text function : String} {args : List Expr} (hne : w ≠ [])
    (hw : ∀ c ∈ w, isWordChar c = true) (ht : text.toList = w ++ '(' :: r)
    (h : parse text = .ok (.call function args)) : function.toList = w := by
  obtain ⟨rest, hread⟩ := parse_reads h
  obtain ⟨c, w', rfl⟩ := List.exists_cons_of_ne_nil hne
  have hskip : ∀ s, skipSpace (c :: s) = c :: s := skip_word (hw c (by simp))
  have hno : mark? "!" (c :: w' ++ '(' :: r) = none := by
    have hmark : '!' ≠ c := by
      rintro rfl
      exact absurd (hw '!' (by simp)) (by decide)
    simp [mark?, hskip, after?, hmark]
  have hprimary : ∀ levels, BeginsWith (postfixed (expression levels)) (c :: w' ++ '(' :: r)
      (CallsOnly (c :: w')) := by
    intro levels e rest hp
    obtain ⟨target, r', htarget, hsuffixes⟩ := andThen_accepts hp
    rw [List.cons_append, hskip, ← List.cons_append] at htarget
    exact ⟨target, primary_word hne hw htarget, suffixesFrom_begins _ .refl hsuffixes⟩
  rw [ht, List.cons_append, hskip, ← List.cons_append] at hread
  obtain ⟨levels, hlevels⟩ : ∃ levels, (c :: w' ++ '(' :: r).length = levels + 1 := ⟨_, rfl⟩
  rw [hlevels] at hread
  obtain ⟨x, hx, hbegins⟩ := expression_begins hno (hprimary levels) _ _ hread
  cases hbegins
  exact hx function args rfl

end

end ActionDispatch.Script
