import ActionDispatch.Proofs.Script.Lexemes
import ActionDispatch.Proofs.Script.Spans

/-!
# Heights of parsed trees

Whatever a parser of the grammar accepts is spanned by the tokens between the place where it starts
and the place where it stops. Shown one parser after the other, in the order in which they are made
of each other, up to the tree of a whole text.
-/

set_option autoImplicit false

namespace ActionDispatch.Script
open Text

mutual
def Expr.height : Expr → Nat
  | .literal _ => 0
  | .list items => tallest items + 1
  | .name _ => 0
  | .property target _ _ => target.height + 1
  | .index target position => max target.height position.height + 1
  | .call _ args => tallest args + 1
  | .invoke target _ args _ => max target.height (tallest args) + 1
  | .not operand => operand.height + 1
  | .binary _ left right => max left.height right.height + 1
  | .elvis left right => max left.height right.height + 1
termination_by structural e => e

def tallest : List Expr → Nat
  | [] => 0
  | e :: rest => max e.height (tallest rest)
termination_by structural es => es
end

section Replies

variable {α β : Type} {r : Reply α} {rest : List Char}

theorem andThen_accepts {next : α → List Char → Reply β} {b : β}
    (h : r.andThen next = .accept b rest) :
    ∃ a s, r = .accept a s ∧ next a s = .accept b rest := by
  cases r with
  | accept a s => exact ⟨a, s, rfl, h⟩
  | refuse => cases h
  | tooDeep => cases h

theorem map_accepts {f : α → β} {b : β} (h : r.map f = .accept b rest) :
    ∃ a, r = .accept a rest ∧ f a = b := by
  obtain ⟨a, s, hr, ha⟩ := andThen_accepts h
  cases ha
  exact ⟨a, hr, rfl⟩

theorem closedBy_accepts {next : List Char → Option (List Char)} {a : α}
    (h : r.closedBy next = .accept a rest) : ∃ s, r = .accept a s ∧ next s = some rest := by
  obtain ⟨a', s, hr, ha⟩ := andThen_accepts h
  split at ha
  next hnext =>
    cases ha
    exact ⟨s, hr, hnext⟩
  next => cases ha

/-- What is read between two marks. Argument lists and positions are read so. -/
def between (left right : String) (inner : Parser α) : Parser α := fun s =>
  match mark? left s with
  | none => .refuse
  | some rest => (inner rest).closedBy (mark? right)

theorem arguments_between (nested : Parser Expr) :
    arguments nested = between "(" ")" (items nested) := rfl

theorem position_between (nested : Parser Expr) :
    position nested = between "[" "]" nested := rfl

theorem between_accepts {left right : String} {inner : Parser α} {s : List Char} {a : α}
    (h : between left right inner s = .accept a rest) :
    ∃ front back, mark? left s = some front ∧ inner front = .accept a back ∧
      mark? right back = some rest := by
  rw [between] at h
  split at h
  next => cases h
  next front hm =>
    obtain ⟨back, hinner, hclose⟩ := closedBy_accepts h
    exact ⟨front, back, hm, hinner, hclose⟩

end Replies

def Stuck (s : List Char) : Prop :=
  ∃ c r, skipSpace s = c :: r ∧ IsQuote c

/-- The tokens up to a place span a height. Where a triple quote that is not closed is read as an
empty string, the scanner and the parser part, but the parser is stuck then. -/
def Covers (listed : Bool) (s rest : List Char) (n : Nat) : Prop :=
  Stuck rest ∨ ∃ ts, Lexes s ts rest ∧ Spans listed ts n

def Measured (p : Parser Expr) : Prop :=
  ∀ s e rest, p s = .accept e rest → s ≠ [] ∧ Covers false s rest e.height

variable {s rest : List Char} {m n : Nat} {listed : Bool}

theorem covers_space (h : Covers listed s rest n) : Covers listed s (skipSpace rest) n := by
  obtain ⟨c, r, hs, hc⟩ | ⟨ts, hts, hs⟩ := h
  · exact .inl ⟨c, r, by rw [skip_skipped, hs], hc⟩
  · exact .inr ⟨ts ++ [], hts.trans (space_lexes rest), by simpa using hs⟩

theorem mark_unstuck {mark : String} (hm : IsMark mark) (h : mark? mark s = some rest) :
    ¬Stuck s := by
  rintro ⟨c, r, hs, hc⟩
  obtain ⟨r', hr, -⟩ := Option.map_eq_some_iff.mp h
  obtain ⟨d, m, hd⟩ := List.exists_cons_of_ne_nil hm.ne_nil
  have hsplit := of_after hr
  rw [hs, hd] at hsplit
  obtain rfl : c = d := (List.cons.inj hsplit).1
  have hunquoted := hm.unquoted
  rw [hd] at hunquoted
  rcases hc with rfl | rfl
  · exact hunquoted.1 List.mem_cons_self
  · exact hunquoted.2 List.mem_cons_self

/-- A height is covered up to a mark behind which the text goes on. -/
theorem covers_mark {mark : String} {t : Token} {r : List Char} (hm : Counts mark t)
    (h : Covers listed s r n) (hr : mark? mark r = some rest) :
    ∃ ts, Lexes s (ts ++ [t]) rest ∧ Spans listed ts n := by
  obtain ⟨ts, hts, hs⟩ := h.resolve_left (mark_unstuck hm.toIsMark hr)
  exact ⟨ts, hts.trans (mark_lexes hm hr), hs⟩

theorem counts_open : Counts "(" .opening := ⟨by decide, by decide, by decide, fun _ => rfl⟩

theorem counts_close : Counts ")" .closing := ⟨by decide, by decide, by decide, fun _ => rfl⟩

theorem counts_square : Counts "[" .opening := ⟨by decide, by decide, by decide, fun _ => rfl⟩

theorem counts_squared : Counts "]" .closing := ⟨by decide, by decide, by decide, fun _ => rfl⟩

theorem counts_comma : Counts "," .comma := ⟨by decide, by decide, by decide, fun _ => rfl⟩

theorem member_counted {safe : Bool} {member : String}
    (h : member? s = some (safe, member, rest)) : ¬Stuck s ∧ Lexes s [.operator] rest := by
  have hsafe : Counts "?." .operator := ⟨by decide, by decide, by decide, fun _ => rfl⟩
  have hpoint : Counts "." .operator := ⟨by decide, by decide, by decide, fun _ => rfl⟩
  unfold member? at h
  split at h
  next r hm =>
    obtain ⟨⟨name, r'⟩, hname, heq⟩ := Option.map_eq_some_iff.mp h
    simp only [Prod.mk.injEq] at heq
    obtain ⟨-, -, rfl⟩ := heq
    exact ⟨mark_unstuck hsafe.toIsMark hm, (mark_lexes hsafe hm).trans (name_lexes hname)⟩
  next =>
    split at h
    next r hm =>
      obtain ⟨⟨name, r'⟩, hname, heq⟩ := Option.map_eq_some_iff.mp h
      simp only [Prod.mk.injEq] at heq
      obtain ⟨-, -, rfl⟩ := heq
      exact ⟨mark_unstuck hpoint.toIsMark hm, (mark_lexes hpoint hm).trans (name_lexes hname)⟩
    next => cases h

variable {nested : Parser Expr}

theorem covers_first (hn : Measured nested) {e : Expr} (he : nested s = .accept e rest) :
    Covers true s rest e.height :=
  (hn _ _ _ he).2.imp_right fun ⟨ts, hts, hs⟩ => ⟨ts, hts, .item hs⟩

theorem covers_item (hn : Measured nested) {r r' r'' : List Char} {e : Expr}
    (hr : Covers true s r n) (hm : mark? "," r = some r') (he : nested r' = .accept e r'') :
    Covers true s r'' (max n e.height) := by
  obtain ⟨ts, hts, hs⟩ := covers_mark counts_comma hr hm
  exact (hn _ _ _ he).2.imp_right fun ⟨us, hus, hu⟩ =>
    ⟨ts ++ .comma :: us, by simpa using hts.trans hus, .comma hs hu⟩

theorem itemsFrom_covers (hn : Measured nested) (steps : Nat) {r : List Char} {es : List Expr}
    (hr : Covers true s r n) (h : itemsFrom nested steps r = .accept es rest) :
    Covers true s rest (max n (tallest es)) := by
  induction steps generalizing n r es with
  | zero =>
    simp only [itemsFrom, Reply.accept.injEq] at h
    obtain ⟨rfl, rfl⟩ := h
    simpa [tallest] using hr
  | succ steps ih =>
    rw [itemsFrom] at h
    split at h
    next =>
      simp only [Reply.accept.injEq] at h
      obtain ⟨rfl, rfl⟩ := h
      simpa [tallest] using hr
    next r' hm =>
      split at h
      next first r'' hfirst =>
        obtain ⟨others, hothers, rfl⟩ := map_accepts h
        simpa [tallest, Nat.max_assoc] using ih (covers_item hn hr hm hfirst) hothers
      next =>
        simp only [Reply.accept.injEq] at h
        obtain ⟨rfl, rfl⟩ := h
        simpa [tallest] using hr
      next => cases h

theorem items_covers (hn : Measured nested) {es : List Expr}
    (h : items nested s = .accept es rest) : Covers true s rest (tallest es) := by
  rw [items] at h
  split at h
  next first r hfirst =>
    obtain ⟨others, hothers, rfl⟩ := map_accepts h
    exact itemsFrom_covers hn _ (covers_first hn hfirst) hothers
  next =>
    simp only [Reply.accept.injEq] at h
    obtain ⟨rfl, rfl⟩ := h
    exact .inr ⟨[], .done, .item .plain⟩
  next => cases h

theorem arguments_covers (hn : Measured nested) {args : List Expr}
    (h : arguments nested s = .accept args rest) :
    ∃ us, Lexes s (.opening :: us ++ [.closing]) rest ∧ Spans true us (tallest args) := by
  obtain ⟨r, r', hm, hitems, hclose⟩ := between_accepts (arguments_between nested ▸ h)
  obtain ⟨us, hus, hs⟩ := covers_mark counts_close (items_covers hn hitems) hclose
  exact ⟨us, (mark_lexes counts_open hm).trans hus, hs⟩

theorem position_covers (hn : Measured nested) {e : Expr}
    (h : position nested s = .accept e rest) :
    ¬Stuck s ∧ ∃ us, Lexes s (.opening :: us ++ [.closing]) rest ∧ Spans true us e.height := by
  obtain ⟨r, r', hm, hplace, hclose⟩ := between_accepts (position_between nested ▸ h)
  obtain ⟨us, hus, hs⟩ := covers_mark counts_squared (hn _ _ _ hplace).2 hclose
  exact ⟨mark_unstuck counts_square.toIsMark hm, us,
    (mark_lexes counts_square hm).trans hus, .item hs⟩

theorem literal_covers {e : Expr} {found : Option (Value × List Char)}
    (hf : ∀ v r, found = some (v, r) → Covers false s r 0) (h : literal found = .accept e rest) :
    Covers false s rest e.height := by
  unfold literal at h
  split at h
  next v r =>
    cases h
    exact hf v rest rfl
  next => cases h

theorem number_covers {negative : Bool} {v : Value}
    (h : number? negative s = some (v, rest)) : Covers false s rest 0 := by
  rcases number_lexes h with hpass | hpass
  · exact .inr ⟨[], hpass, .plain⟩
  · exact .inr ⟨[.operator], hpass, .lower (Nat.zero_le _) (.operator .plain .plain)⟩

theorem string_covers {q : Char} {content : List Char} (hq : IsQuote q)
    (h : string? q s = some (content, rest)) : Covers false (q :: s) rest 0 := by
  by_cases hhead : rest.head? = some q
  · left
    obtain ⟨r, rfl⟩ := List.head?_eq_some_iff.mp hhead
    have hspace : isSpace q = false := by rcases hq with rfl | rfl <;> decide
    exact ⟨q, r, by simp [skipSpace, hspace], hq⟩
  · exact .inr ⟨[], .string hq h hhead .done, .plain⟩

theorem named_measured (hn : Measured nested) : Measured (named nested) := by
  intro s e rest h
  have hplain : ∀ {name : String} {r : List Char}, name? s = some (name, r) → Covers false s r 0 :=
    fun hname => .inr ⟨[], name_lexes hname, .plain⟩
  have hne : ∀ {found : String × List Char}, name? s = some found → s ≠ [] := by
    rintro found hname rfl
    cases hname
  unfold named at h
  split at h
  next => cases h
  next hname =>
    cases h
    exact ⟨hne hname, hplain hname⟩
  next hname =>
    cases h
    exact ⟨hne hname, hplain hname⟩
  next hname =>
    cases h
    exact ⟨hne hname, hplain hname⟩
  next name r _ _ _ hname =>
    refine ⟨hne hname, ?_⟩
    split at h
    next args r' hargs =>
      cases h
      obtain ⟨us, hus, hs⟩ := arguments_covers hn hargs
      exact .inr ⟨[] ++ .opening :: us ++ [.closing], (name_lexes hname).trans hus,
        .lower (by simp [Expr.height]) (.bracket .plain hs)⟩
    next =>
      cases h
      exact hplain hname
    next => cases h

theorem primary_measured (hn : Measured nested) : Measured (primary nested) := by
  intro s e rest h
  cases s with
  | nil => cases h
  | cons c s =>
    refine ⟨by simp, ?_⟩
    rw [primary] at h
    split at h
    next => exact literal_covers (fun _ _ => number_covers) h
    split at h
    next hc =>
      subst hc
      refine literal_covers (fun v r hv => (number_covers hv).imp_right fun hnumber => ?_) h
      obtain ⟨ts, hts, hs⟩ := hnumber
      exact ⟨ts, .plain (by decide) hts, hs⟩
    split at h
    next hq =>
      refine literal_covers (fun v r hv => ?_) h
      obtain ⟨⟨content, r'⟩, hstring, heq⟩ := Option.map_eq_some_iff.mp hv
      simp only [Prod.mk.injEq] at heq
      exact heq.2 ▸ string_covers hq hstring
    split at h
    next hc =>
      subst hc
      obtain ⟨items, hitems, rfl⟩ := map_accepts h
      obtain ⟨r, hread, hclose⟩ := closedBy_accepts hitems
      obtain ⟨us, hus, hs⟩ := covers_mark counts_squared (items_covers hn hread) hclose
      have hopen : Lexes ('[' :: s) (.opening :: ([] ++ (us ++ [.closing]))) rest :=
        .mark counts_square ((space_lexes s).trans hus)
      exact .inr ⟨[] ++ .opening :: us ++ [.closing], hopen,
        .lower (by simp [Expr.height]) (.bracket .plain hs)⟩
    split at h
    next hc =>
      subst hc
      obtain ⟨r, hread, hclose⟩ := closedBy_accepts h
      obtain ⟨us, hus, hs⟩ := covers_mark counts_close (hn _ _ _ hread).2 hclose
      have hopen : Lexes ('(' :: s) (.opening :: ([] ++ (us ++ [.closing]))) rest :=
        .mark counts_open ((space_lexes s).trans hus)
      exact .inr ⟨[] ++ .opening :: us ++ [.closing], hopen,
        .lower (by omega) (.bracket .plain (.item hs))⟩
    next => exact (named_measured hn _ _ _ h).2

theorem suffixesFrom_covers (hn : Measured nested) (steps : Nat) {target e : Expr} {r : List Char}
    (hr : Covers false s r target.height)
    (h : suffixesFrom nested steps target r = .accept e rest) :
    Covers false s rest e.height := by
  induction steps generalizing target r with
  | zero =>
    cases h
    exact hr
  | succ steps ih =>
    rw [suffixesFrom] at h
    split at h
    next safe member r' hm =>
      obtain ⟨hstuck, hmember⟩ := member_counted hm
      obtain ⟨ts, hts, hs⟩ := hr.resolve_left hstuck
      have hpoint : Spans false (ts ++ [.operator]) (target.height + 1) :=
        .lower (by omega) (.operator hs .plain)
      split at h
      next args r'' hargs =>
        obtain ⟨us, hus, hu⟩ := arguments_covers hn hargs
        refine ih (.inr ⟨ts ++ [.operator] ++ .opening :: us ++ [.closing], ?_, ?_⟩) h
        · simpa using (hts.trans hmember).trans hus
        · exact .lower (by simp only [Expr.height]; omega) (.bracket hpoint hu)
      next => exact ih (.inr ⟨ts ++ [.operator], hts.trans hmember, hpoint⟩) h
      next => cases h
    next =>
      split at h
      next place r' hplace =>
        obtain ⟨hstuck, us, hus, hu⟩ := position_covers hn hplace
        obtain ⟨ts, hts, hs⟩ := hr.resolve_left hstuck
        refine ih (.inr ⟨ts ++ .opening :: us ++ [.closing], ?_, .bracket hs hu⟩) h
        simpa using hts.trans hus
      next =>
        cases h
        exact hr
      next => cases h

theorem postfixed_measured (hn : Measured nested) : Measured (postfixed nested) := by
  intro s e rest h
  obtain ⟨target, r, hprimary, hsuffixes⟩ := andThen_accepts h
  obtain ⟨hne, htarget⟩ := primary_measured hn _ _ _ hprimary
  have htarget : Covers false s r target.height :=
    htarget.imp_right fun ⟨ts, hts, hs⟩ => ⟨ts, (space_lexes s).trans hts, hs⟩
  refine ⟨?_, suffixesFrom_covers hn _ (covers_space htarget) hsuffixes⟩
  rintro rfl
  exact hne rfl

def Joins (joint? : JointParser) : Prop :=
  ∀ s join rest, joint? s = some (join, rest) →
    ¬Stuck s ∧ (rest ≠ [] → Lexes s [.operator] rest) ∧
      ∀ left right : Expr, (join left right).height = max left.height right.height + 1

theorem joint_joins {mark : String} {join : Joint} (hm : IsMark mark)
    (hl : ∀ s rest, mark? mark s = some rest → rest ≠ [] → Lexes s [.operator] rest)
    (hj : ∀ left right : Expr, (join left right).height = max left.height right.height + 1) :
    Joins (joint? mark join) := by
  intro s join' rest h
  obtain ⟨r, hr, heq⟩ := Option.map_eq_some_iff.mp h
  simp only [Prod.mk.injEq] at heq
  obtain ⟨rfl, rfl⟩ := heq
  exact ⟨mark_unstuck hm hr, hl _ _ hr, hj⟩

theorem counted_joins {mark : String} {join : Joint} (hm : Counts mark .operator)
    (hj : ∀ left right : Expr, (join left right).height = max left.height right.height + 1) :
    Joins (joint? mark join) :=
  joint_joins hm.toIsMark (fun _ _ hr _ => mark_lexes hm hr) hj

theorem equality_joins : Joins equalityJoint? := by
  intro s join rest h
  have heq : Joins (joint? "==" (.binary .eq)) :=
    counted_joins ⟨by decide, by decide, by decide, fun _ => rfl⟩ fun _ _ => rfl
  have hne : Joins (joint? "!=" (.binary .ne)) :=
    counted_joins ⟨by decide, by decide, by decide, fun _ => rfl⟩ fun _ _ => rfl
  unfold equalityJoint? at h
  split at h
  next hfound =>
    cases h
    exact heq _ _ _ hfound
  next => exact hne _ _ _ h

variable {operand : Parser Expr} {joint? : JointParser}

theorem chainFrom_covers (hj : Joins joint?) (ho : Measured operand) (steps : Nat) {left e : Expr}
    {r : List Char} (hr : Covers false s r left.height)
    (h : chainFrom joint? operand steps left r = .accept e rest) :
    Covers false s rest e.height := by
  induction steps generalizing left r with
  | zero =>
    cases h
    exact hr
  | succ steps ih =>
    rw [chainFrom] at h
    split at h
    next =>
      cases h
      exact hr
    next join r' hjoin =>
      obtain ⟨hstuck, hsign, hheight⟩ := hj _ _ _ hjoin
      split at h
      next right r'' hright =>
        obtain ⟨ts, hts, hs⟩ := hr.resolve_left hstuck
        obtain ⟨hne, hcovers⟩ := ho _ _ _ hright
        refine ih (hcovers.imp_right fun ⟨us, hus, hu⟩ => ⟨ts ++ .operator :: us, ?_, ?_⟩) h
        · simpa using (hts.trans (hsign hne)).trans hus
        · exact hheight left right ▸ .operator hs hu
      next =>
        cases h
        exact hr
      next => cases h

theorem chain_measured (hj : Joins joint?) (ho : Measured operand) :
    Measured (chain joint? operand) := by
  intro s e rest h
  obtain ⟨left, r, hleft, hchain⟩ := andThen_accepts h
  obtain ⟨hne, hcovers⟩ := ho _ _ _ hleft
  exact ⟨hne, chainFrom_covers hj ho _ hcovers hchain⟩

theorem add_joins : Joins addJoint? :=
  counted_joins ⟨by decide, by decide, by decide, fun _ => rfl⟩ fun _ _ => rfl

theorem and_joins : Joins andJoint? :=
  counted_joins ⟨by decide, by decide, by decide, fun _ => rfl⟩ fun _ _ => rfl

theorem or_joins : Joins orJoint? :=
  joint_joins (by decide) (fun _ _ => bars_lexes) fun _ _ => rfl

theorem elvis_joins : Joins elvisJoint? :=
  counted_joins ⟨by decide, by decide, by decide, fun _ => rfl⟩ fun _ _ => rfl

theorem binaries_measured (ho : Measured operand) : Measured (binaries operand) :=
  chain_measured elvis_joins (chain_measured or_joins (chain_measured and_joins
    (chain_measured equality_joins (chain_measured add_joins ho))))

theorem unary_no_sign (levels : Nat) (s : List Char) : unary levels ('=' :: s) = .refuse := by
  have hspace : isSpace '=' = false := by decide
  have hname : startsName '=' = false := by decide
  have hno : mark? "!" ('=' :: s) = none := by simp [mark?, skipSpace, hspace, after?]
  cases levels <;>
    simp [unary, unaryOver, hno, postfixed, skipSpace, hspace, primary, named, name?, hname,
      Reply.andThen]

theorem unaryOver_measured {negated : Parser Expr}
    (hno : ∀ s e rest, negated ('=' :: s) ≠ .accept e rest) (hneg : Measured negated)
    (hn : Measured nested) : Measured (unaryOver negated nested) := by
  intro s e rest h
  unfold unaryOver at h
  split at h
  next r hm =>
    obtain ⟨operand, hoperand, rfl⟩ := map_accepts h
    obtain ⟨r', hr', rfl⟩ := Option.map_eq_some_iff.mp hm
    have hs : skipSpace s = '!' :: r' := of_after hr'
    have hhead : r'.head? ≠ some '=' := by
      intro hhead
      obtain ⟨r'', rfl⟩ := List.head?_eq_some_iff.mp hhead
      exact hno _ _ _ hoperand
    have hsign : Lexes s [.operator] (skipSpace r') :=
      (hs ▸ space_lexes s).trans (.negation hhead (space_lexes r'))
    refine ⟨?_, (hneg _ _ _ hoperand).2.imp_right fun ⟨us, hus, hu⟩ =>
      ⟨[] ++ .operator :: us, hsign.trans hus,
        .lower (by simp [Expr.height]) (.operator .plain hu)⟩⟩
    rintro rfl
    cases hs
  next => exact postfixed_measured hn _ _ _ h

theorem unary_measured (levels : Nat) : Measured (unary levels) := by
  induction levels with
  | zero => exact unaryOver_measured nofun nofun nofun
  | succ levels ih =>
    refine unaryOver_measured ?_ ih (binaries_measured ih)
    intro s e rest h
    rw [unary_no_sign] at h
    cases h

theorem expression_measured (levels : Nat) : Measured (expression levels) :=
  binaries_measured (unary_measured levels)

/-- A text that is read whole is cut into lexemes, and its tokens span the tree. -/
theorem parseWithin_lexes {levels : Nat} {e : Expr} (h : parseWithin levels s = .ok e) :
    skipSpace s ≠ [] ∧ Lexes (skipSpace s) (marks s) [] ∧ Spans false (marks s) e.height := by
  simp only [parseWithin] at h
  split at h
  next e' rest hread =>
    split at h
    next hend =>
      cases h
      obtain ⟨hne, hcovers⟩ := expression_measured levels _ _ _ hread
      have hstuck : ¬Stuck rest := by simp [Stuck, hend]
      obtain ⟨ts, hts, hs⟩ := hcovers.resolve_left hstuck
      have hlexes : Lexes (skipSpace s) ts [] := by
        have hrest := hend ▸ space_lexes rest
        simpa using hts.trans hrest
      have hmarks : marks s = ts := by
        have hs := lexes_marks ((space_lexes s).trans hlexes)
        simpa [marks_nil] using hs
      exact ⟨hne, hmarks ▸ hlexes, hmarks ▸ hs⟩
    next => cases h
  next => cases h
  next => cases h

theorem parseWithin_spans {levels : Nat} {e : Expr} (h : parseWithin levels s = .ok e) :
    Spans false (marks s) e.height :=
  (parseWithin_lexes h).2.2

end ActionDispatch.Script
