import ActionDispatch.Proofs.Script.Height
import ActionDispatch.Proofs.Script.RoundTrip

/-!
# Parsers on texts that begin alike

A parser that stops at an end of its level in a text does the same in a text that begins alike and
goes on with a closing parenthesis. Shown one parser after the other, in the order in which they are
made of each other. Each alternative that is given up in the first text is given up in the second
for the same reason: what would have to come next does not.
-/

set_option autoImplicit false

namespace ActionDispatch.Script
open Text

variable {z s s' r rest : List Char} {m n levels : Nat}

theorem spells_blank {w : List Char} {ts : List Word} (hw : Blank w) (h : Spells ts s) :
    Spells ts (w ++ s) := by
  have hboth : ∀ v : List Char, Blank v → Blank (w ++ v) := fun v hv c hc =>
    (List.mem_append.mp hc).elim (hw c) (hv c)
  cases h with
  | nil hv => exact .nil (hboth _ hv)
  | cons hv hs =>
    rw [List.append_assoc, ← List.append_assoc, ← List.append_assoc]
    exact .cons (hboth _ hv) hs

theorem ahead_unskip {ts : List Word} (h : Ahead ts (skipSpace s)) : Ahead ts s := by
  have hsplit : s = s.takeWhile isSpace ++ skipSpace s := List.takeWhile_append_dropWhile.symm
  rw [hsplit]
  exact ⟨h.solid, spells_blank (fun _ => List.mem_takeWhile_imp) h.spelled⟩

theorem ahead_any (s : List Char) : ∃ ts, Ahead ts s := by
  have hblank : Blank [] := by simp [Blank]
  cases hs : skipSpace s with
  | nil => exact ⟨[], ahead_unskip (hs ▸ ⟨by simp, .nil hblank⟩)⟩
  | cons c r =>
    have hc : isSpace c = false := by
      have hfirst := List.head?_dropWhile_not isSpace s
      rw [← skipSpace, hs] at hfirst
      simpa using hfirst
    have hahead : Ahead [c :: r] (c :: r) :=
      ⟨by simp [isSolid, hc], by simpa using spells_flatten [c :: r]⟩
    exact ⟨[c :: r], ahead_unskip (hs ▸ hahead)⟩

theorem ahead_mark {mark : String} (hm : isSolid mark.toList = true) (h : mark? mark s = some r) :
    ∃ ts, Ahead (mark.toList :: ts) s := by
  obtain ⟨r', hr, -⟩ := Option.map_eq_some_iff.mp h
  obtain ⟨ts, hts⟩ := ahead_any r'
  have hblank : Blank [] := by simp [Blank]
  refine ⟨ts, ahead_unskip ⟨?_, ?_⟩⟩
  · simpa [hm] using hts.solid
  · rw [of_after hr]
    exact .cons hblank hts.spelled

def Halts (n : Nat) (s : List Char) : Prop := ∃ ts, Ahead ts s ∧ Stopped n ts

theorem halts_mono (hmn : m ≤ n) (h : Halts n s) : Halts m s := by
  obtain ⟨ts, hts, hs⟩ := h
  exact ⟨ts, hts, stopped_mono hmn hs⟩

theorem halts_mark (mark : String) (hm : mark.toList ∈ stops n) (h : mark? mark s = some r) :
    Halts n s := by
  have hall : ∀ t ∈ stops 0, isSolid t = true := by decide
  obtain ⟨ts, hts⟩ := ahead_mark (hall _ (stops_mono (Nat.zero_le n) _ hm)) h
  exact ⟨_, hts, hm⟩

theorem halts_end (h : skipSpace s = []) : Halts n s :=
  ⟨[], ahead_unskip (h ▸ ⟨by simp, .nil (by simp [Blank])⟩), trivial⟩

theorem halts_no_mark (mark : String) (hm : mark.toList ≠ [])
    (hall : ∀ t ∈ stops n, clash mark.toList t = true) (h : Halts n s) : mark? mark s = none := by
  obtain ⟨ts, hts, hs⟩ := h
  exact stopped_mark mark hm hall hs hts

theorem mark_excludes {mark other : String} (hc : clash other.toList mark.toList = true)
    (h : mark? mark s = some r) : mark? other s = none := by
  obtain ⟨r', hr, -⟩ := Option.map_eq_some_iff.mp h
  simp [mark?, of_after hr, after_clash hc]

theorem joint_halts {join : Joint} (hn : n ≤ 4) (h : jointOf n s = some (join, r)) :
    Halts (n + 1) s := by
  have hfound : ∀ (mark : String) {j : Joint}, mark.toList ∈ stops (n + 1) →
      joint? mark j s = some (join, r) → Halts (n + 1) s := by
    intro mark j hm hj
    obtain ⟨r', hr, -⟩ := Option.map_eq_some_iff.mp hj
    exact halts_mark mark hm hr
  match n, hn with
  | 0, _ => exact hfound "+" (by decide) h
  | 1, _ =>
    simp only [jointOf, equalityJoint?] at h
    split at h
    next hj =>
      cases h
      exact hfound "==" (by decide) hj
    next => exact hfound "!=" (by decide) h
  | 2, _ => exact hfound "&&" (by decide) h
  | 3, _ => exact hfound "||" (by decide) h
  | 4, _ => exact hfound "?:" (by decide) h

theorem halts_no_joint (hn : n ≤ 4) (h : Halts (n + 2) s) : jointOf n s = none := by
  obtain ⟨ts, hts, hs⟩ := h
  exact stopped_joint hn hs hts

theorem joint_twin {join : Joint} (ht : Twin z s s') (h : jointOf n s = some (join, r)) :
    ∃ r', jointOf n s' = some (join, r') ∧ Twin z r r' ∧ ink r' < ink s' := by
  have hfound : ∀ (mark : String) {j : Joint}, IsMark mark → joint? mark j s = some (join, r) →
      ∃ r', joint? mark j s' = some (join, r') ∧ Twin z r r' ∧ ink r' < ink s' := by
    intro mark j hm hj
    obtain ⟨q, hq, heq⟩ := Option.map_eq_some_iff.mp hj
    simp only [Prod.mk.injEq] at heq
    obtain ⟨rfl, rfl⟩ := heq
    obtain ⟨r', hr', htwin, hlt⟩ := mark_twin hm ht hq
    exact ⟨r', by simp [joint?, hr'], htwin, hlt⟩
  rcases n with _ | _ | _ | _ | n
  · exact hfound "+" (by decide) h
  · simp only [jointOf, equalityJoint?] at h ⊢
    split at h
    next hj =>
      cases h
      obtain ⟨r', hr', htwin, hlt⟩ := hfound "==" (by decide) hj
      exact ⟨r', by rw [hr'], htwin, hlt⟩
    next hj =>
      have hno : mark? "==" s' = none :=
        mark_apart (by decide) (by decide) ht (by simpa [joint?] using hj)
      obtain ⟨r', hr', htwin, hlt⟩ := hfound "!=" (by decide) h
      exact ⟨r', by simpa [joint?, hno] using hr', htwin, hlt⟩
  · exact hfound "&&" (by decide) h
  · exact hfound "||" (by decide) h
  · exact hfound "?:" (by decide) h

theorem joint_apart (ht : Twin z s s') (h : jointOf n s = none) : jointOf n s' = none := by
  have hno : ∀ (mark : String) {j : Joint}, IsMark mark → ')' ∉ mark.toList →
      joint? mark j s = none → joint? mark j s' = none := by
    intro mark j hm hp hj
    rw [joint?, mark_apart hm hp ht (by simpa [joint?] using hj)]
    rfl
  rcases n with _ | _ | _ | _ | n
  · exact hno "+" (by decide) (by decide) h
  · simp only [jointOf, equalityJoint?] at h ⊢
    split at h
    next => cases h
    next hj =>
      rw [hno "==" (by decide) (by decide) hj]
      exact hno "!=" (by decide) (by decide) h
  · exact hno "&&" (by decide) (by decide) h
  · exact hno "||" (by decide) (by decide) h
  · exact hno "?:" (by decide) (by decide) h

def Mirrors {α : Type} (z : List Char) (p : Parser α) (s : List Char) (a : α) (rest : List Char) :
    Prop :=
  ∃ rest', p s = .accept a rest' ∧ Twin z rest rest' ∧ ink rest' ≤ ink s

/-- One parser does in the second text what another does in the first, as far as the second text is
no longer than allowed. -/
def Carries (z : List Char) (allowed n : Nat) (p p' : Parser Expr) : Prop :=
  ∀ s s' e rest, Twin z s s' → ink s' ≤ allowed → p s = .accept e rest → Halts n rest →
    Mirrors z p' s' e rest

variable {nested : Parser Expr} {close : String}

theorem closer_halts (hc : close = ")" ∨ close = "]") (h : mark? close s = some r) : Halts n s := by
  have hstop : [')'] ∈ stops n ∧ [']'] ∈ stops n := by simp [stops]
  rcases hc with rfl | rfl
  · exact halts_mark ")" hstop.1 h
  · exact halts_mark "]" hstop.2 h

theorem closer_twin (hc : close = ")" ∨ close = "]") (ht : Twin z s s')
    (h : mark? close s = some r) :
    ∃ r', mark? close s' = some r' ∧ Twin z r r' ∧ ink r' < ink s' := by
  have hm : IsMark close := by rcases hc with rfl | rfl <;> decide
  exact mark_twin hm ht h

theorem closer_no_comma (hc : close = ")" ∨ close = "]") (ht : Twin z s s')
    (h : mark? close s = some r) : mark? "," s' = none := by
  have hclash : clash ",".toList close.toList = true := by rcases hc with rfl | rfl <;> decide
  exact mark_apart (by decide) (by decide) ht (mark_excludes hclash h)

theorem closer_refused (hc : close = ")" ∨ close = "]") (h : mark? close s = some r) :
    expression levels s = .refuse := by
  have hsolid : isSolid close.toList = true := by rcases hc with rfl | rfl <;> decide
  obtain ⟨ts, hts⟩ := ahead_mark hsolid h
  refine operand_refused ?_ hts
  rcases hc with rfl | rfl
  · exact .inl rfl
  · exact .inr rfl

/-- Behind what is carried the bracket that closes it is found as well. -/
theorem closedBy_carries {α : Type} {p p' : Parser α} {a : α} (hc : close = ")" ∨ close = "]")
    (hp : ∀ q r, p s = .accept a q → mark? close q = some r → Mirrors z p' s' a q)
    (h : (p s).closedBy (mark? close) = .accept a rest) :
    ∃ rest', (p' s').closedBy (mark? close) = .accept a rest' ∧ Twin z rest rest' ∧
      ink rest' < ink s' := by
  obtain ⟨q, hread, hclose⟩ := closedBy_accepts h
  obtain ⟨q', hread', hq, hle⟩ := hp q rest hread hclose
  obtain ⟨rest', hclose', hr, hlt⟩ := closer_twin hc hq hclose
  refine ⟨rest', ?_, hr, by omega⟩
  simp [hread', hclose', Reply.closedBy, Reply.andThen]

theorem between_carries {α : Type} {p p' : Parser α} {a : α} {left : String} (hl : IsMark left)
    (hc : close = ")" ∨ close = "]") (ht : Twin z s s')
    (hp : ∀ q q' back r, Twin z q q' → ink q' < ink s' → p q = .accept a back →
      mark? close back = some r → Mirrors z p' q' a back)
    (h : between left close p s = .accept a rest) :
    ∃ rest', between left close p' s' = .accept a rest' ∧ Twin z rest rest' ∧
      ink rest' < ink s' := by
  rw [between] at h
  split at h
  next => cases h
  next q hm =>
    obtain ⟨q', hm', hq, hlt⟩ := mark_twin hl ht hm
    obtain ⟨rest', hclosed, hr, hlt'⟩ :=
      closedBy_carries hc (fun back r => hp q q' back r hq hlt) h
    exact ⟨rest', by simp [between, hm', hclosed], hr, by omega⟩

/-- The items behind a first one end in front of a comma or of the bracket that closes them. -/
theorem itemsFrom_halts (hc : close = ")" ∨ close = "]") {steps : Nat} {es : List Expr}
    (h : itemsFrom nested steps s = .accept es rest) (hclose : mark? close rest = some r) :
    Halts 6 s := by
  cases hm : mark? "," s with
  | some q => exact halts_mark "," (by decide) hm
  | none =>
    have hstop : itemsFrom nested steps s = .accept [] s := by cases steps <;> simp [itemsFrom, hm]
    rw [hstop] at h
    cases h
    exact closer_halts hc hclose

theorem itemsFrom_carries (hn : Carries z levels 6 nested (expression levels))
    (hc : close = ")" ∨ close = "]") (steps steps' : Nat) {es : List Expr} (ht : Twin z s s')
    (hle : ink s' ≤ levels) (hsteps : ink s' ≤ steps')
    (h : itemsFrom nested steps s = .accept es rest) (hclose : mark? close rest = some r) :
    Mirrors z (itemsFrom (expression levels) steps') s' es rest := by
  have hstop : ∀ {s s' : List Char} {steps' : Nat}, Twin z s s' → mark? close s = some r →
      Mirrors z (itemsFrom (expression levels) steps') s' [] s := by
    intro s s' steps' ht hclose
    have hno := closer_no_comma hc ht hclose
    exact ⟨s', by cases steps' <;> simp [itemsFrom, hno], ht, Nat.le_refl _⟩
  induction steps generalizing s s' es steps' with
  | zero =>
    cases h
    exact hstop ht hclose
  | succ steps ih =>
    rw [itemsFrom] at h
    split at h
    next =>
      cases h
      exact hstop ht hclose
    next q hm =>
      obtain ⟨q', hm', hq, hlt⟩ := mark_twin (by decide) ht hm
      split at h
      next first q₂ hfirst =>
        obtain ⟨others, hothers, rfl⟩ := map_accepts h
        obtain ⟨q₂', hfirst', hq₂, hle₂⟩ :=
          hn _ _ _ _ hq (by omega) hfirst (itemsFrom_halts hc hothers hclose)
        obtain ⟨k, rfl⟩ : ∃ k, steps' = k + 1 := ⟨steps' - 1, by omega⟩
        obtain ⟨rest', hrest', hr, hle'⟩ := ih k hq₂ (by omega) (by omega) hothers
        refine ⟨rest', ?_, hr, by omega⟩
        simp [itemsFrom, hm', hfirst', hrest', Reply.map, Reply.andThen]
      next =>
        cases h
        rw [mark_excludes (by rcases hc with rfl | rfl <;> decide) hclose] at hm
        cases hm
      next => cases h

theorem items_carries (hn : Carries z levels 6 nested (expression levels))
    (hc : close = ")" ∨ close = "]") {es : List Expr} (ht : Twin z s s') (hle : ink s' ≤ levels)
    (h : items nested s = .accept es rest) (hclose : mark? close rest = some r) :
    Mirrors z (items (expression levels)) s' es rest := by
  rw [items] at h
  split at h
  next first q hfirst =>
    obtain ⟨others, hothers, rfl⟩ := map_accepts h
    obtain ⟨q', hfirst', hq, hle'⟩ :=
      hn _ _ _ _ ht hle hfirst (itemsFrom_halts hc hothers hclose)
    obtain ⟨rest', hrest', hr, hle''⟩ :=
      itemsFrom_carries hn hc _ q'.length hq (by omega) (ink_length q') hothers hclose
    refine ⟨rest', ?_, hr, by omega⟩
    simp [items, hfirst', hrest', Reply.map, Reply.andThen]
  next =>
    cases h
    obtain ⟨r', hclose', -, -⟩ := closer_twin hc ht hclose
    exact ⟨s', by simp [items, closer_refused hc hclose'], ht, Nat.le_refl _⟩
  next => cases h

theorem arguments_carries (hn : Carries z levels 6 nested (expression levels)) {args : List Expr}
    (ht : Twin z s s') (hle : ink s' ≤ levels + 1) (h : arguments nested s = .accept args rest) :
    Mirrors z (arguments (expression levels)) s' args rest := by
  have hitems : ∀ q q' back r, Twin z q q' → ink q' < ink s' → items nested q = .accept args back →
      mark? ")" back = some r → Mirrors z (items (expression levels)) q' args back :=
    fun _ _ _ _ hq hlt hread hclose => items_carries hn (.inl rfl) hq (by omega) hread hclose
  obtain ⟨rest', hread, hr, hlt⟩ :=
    between_carries (by decide) (.inl rfl) ht hitems (arguments_between nested ▸ h)
  exact ⟨rest', hread, hr, by omega⟩

theorem position_carries (hn : Carries z levels 6 nested (expression levels)) {e : Expr}
    (ht : Twin z s s') (hle : ink s' ≤ levels + 1) (h : position nested s = .accept e rest) :
    (∃ q, mark? "[" s = some q) ∧
      ∃ rest', position (expression levels) s' = .accept e rest' ∧ Twin z rest rest' ∧
        ink rest' < ink s' := by
  obtain ⟨q, -, hm, -, -⟩ := between_accepts (position_between nested ▸ h)
  refine ⟨⟨q, hm⟩, ?_⟩
  exact between_carries (by decide) (.inr rfl) ht (fun _ _ _ _ hq hlt hplace hclose =>
    hn _ _ _ _ hq (by omega) hplace (closer_halts (.inr rfl) hclose)) (position_between nested ▸ h)

theorem named_starts {e : Expr} (h : named nested s = .accept e rest) :
    ∃ c r, s = c :: r ∧ startsName c = true := by
  have hname : ∃ found, name? s = some found := by
    cases hn : name? s with
    | none => simp [named, hn] at h
    | some found => exact ⟨found, rfl⟩
  obtain ⟨found, hfound⟩ := hname
  cases s with
  | nil => cases hfound
  | cons c r =>
    refine ⟨c, r, rfl, ?_⟩
    rw [name?] at hfound
    split at hfound
    next hc => exact hc
    next => cases hfound

theorem primary_starts {e : Expr} (h : primary nested s = .accept e rest) :
    ∃ c r, s = c :: r ∧ isBlank c = false := by
  cases s with
  | nil => cases h
  | cons c r =>
    refine ⟨c, r, rfl, ?_⟩
    cases hblank : isBlank c with
    | false => rfl
    | true =>
      have hclass : ∀ d, isBlank d = false → c ≠ d := by
        rintro d hd rfl
        rw [hblank] at hd
        cases hd
      have hdigit : c.isDigit = false := blank_outside (by decide) hblank
      rw [primary, if_neg (by simp [hdigit]), if_neg (hclass _ (by decide)),
        if_neg (by simp [hclass '"' (by decide), hclass '\'' (by decide)]),
        if_neg (hclass _ (by decide)), if_neg (hclass _ (by decide))] at h
      obtain ⟨d, r', heq, hd⟩ := named_starts h
      obtain ⟨rfl, -⟩ := List.cons.inj heq
      rw [blank_not_name hblank] at hd
      cases hd

theorem literal_mirrors {found found' : Option (Value × List Char)} {e : Expr}
    (hf : ∀ v, found = some (v, rest) →
      ∃ rest', found' = some (v, rest') ∧ Twin z rest rest' ∧ ink rest' ≤ n)
    (h : literal found = .accept e rest) :
    ∃ rest', literal found' = .accept e rest' ∧ Twin z rest rest' ∧ ink rest' ≤ n := by
  unfold literal at h
  split at h
  next v q =>
    cases h
    obtain ⟨rest', hr, ht, hle⟩ := hf v rfl
    exact ⟨rest', by rw [hr]; rfl, ht, hle⟩
  next => cases h

theorem named_carries (hn : Carries z levels 6 nested (expression levels)) {e : Expr}
    (ht : Twin z s s') (hle : ink s' ≤ levels + 1) (h : named nested s = .accept e rest)
    (hfree : mark? "(" rest = none) : Mirrors z (named (expression levels)) s' e rest := by
  unfold named at h
  split at h
  next => cases h
  next hname =>
    cases h
    obtain ⟨rest', hname', hr, hle'⟩ := name_twin ht hname
    exact ⟨rest', by simp [named, hname'], hr, hle'⟩
  next hname =>
    cases h
    obtain ⟨rest', hname', hr, hle'⟩ := name_twin ht hname
    exact ⟨rest', by simp [named, hname'], hr, hle'⟩
  next hname =>
    cases h
    obtain ⟨rest', hname', hr, hle'⟩ := name_twin ht hname
    exact ⟨rest', by simp [named, hname'], hr, hle'⟩
  next name q htrue hfalse hnull hname =>
    obtain ⟨q', hname', hq, hle'⟩ := name_twin ht hname
    split at h
    next args q₂ hargs =>
      cases h
      obtain ⟨rest', hargs', hr, hle''⟩ := arguments_carries hn hq (by omega) hargs
      exact ⟨rest', by simp [named, hname', hargs'], hr, by omega⟩
    next =>
      cases h
      have hno : arguments (expression levels) q' = .refuse := by
        rw [arguments, mark_apart (by decide) (by decide) hq hfree]
      exact ⟨q', by simp [named, hname', hno], hq, hle'⟩
    next => cases h

theorem primary_carries (hz : Apart z) (hn : Carries z levels 6 nested (expression levels))
    {e : Expr}
    (ht : Twin z s s') (hle : ink s' ≤ levels + 1) (h : primary nested s = .accept e rest)
    (hfree : mark? "(" rest = none) : Mirrors z (primary (expression levels)) s' e rest := by
  obtain ⟨c, q, rfl, hc⟩ := primary_starts h
  obtain ⟨q', rfl, hq⟩ := twin_behind (m := [c]) (by simpa using hc) ht
  have hlt : ink q' < ink (c :: q') := ink_positive (unblank_space hc) q'
  have hskip := skip_twin hq
  have hskiple : ink (skipSpace q') ≤ levels := by
    rw [ink_skip]
    exact Nat.le_of_lt_succ (Nat.lt_of_lt_of_le hlt hle)
  show ∃ rest', primary (expression levels) (c :: q') = .accept e rest' ∧ Twin z rest rest' ∧
    ink rest' ≤ ink (c :: q')
  rw [primary] at h ⊢
  split at h
  next hdigit =>
    rw [if_pos hdigit]
    exact literal_mirrors (fun v hv => number_twin ht hv) h
  next hdigit =>
  rw [if_neg hdigit]
  split at h
  next hminus =>
    rw [if_pos hminus]
    refine literal_mirrors (fun v hv => ?_) h
    obtain ⟨rest', hv', hr, hle'⟩ := number_twin hq hv
    exact ⟨rest', hv', hr, by omega⟩
  next hminus =>
  rw [if_neg hminus]
  split at h
  next hquote =>
    rw [if_pos hquote]
    refine literal_mirrors (fun v hv => ?_) h
    obtain ⟨⟨content, r⟩, hstring, heq⟩ := Option.map_eq_some_iff.mp hv
    simp only [Prod.mk.injEq] at heq
    obtain ⟨rfl, rfl⟩ := heq
    obtain ⟨rest', hstring', hr, hle'⟩ := string_twin hquote hz hq hstring
    exact ⟨rest', by rw [hstring']; rfl, hr, by omega⟩
  next hquote =>
  rw [if_neg hquote]
  split at h
  next hsquare =>
    rw [if_pos hsquare]
    obtain ⟨es, hes, rfl⟩ := map_accepts h
    obtain ⟨rest', hclosed, hr, hlt'⟩ := closedBy_carries (.inr rfl)
      (fun _ _ hitems hclose => items_carries hn (.inr rfl) hskip hskiple hitems hclose) hes
    rw [ink_skip] at hlt'
    exact ⟨rest', by rw [hclosed]; rfl, hr, by omega⟩
  next hsquare =>
  rw [if_neg hsquare]
  split at h
  next hparen =>
    rw [if_pos hparen]
    obtain ⟨rest', hclosed, hr, hlt'⟩ := closedBy_carries (.inl rfl)
      (fun _ _ hinner hclose => hn _ _ _ _ hskip hskiple hinner (closer_halts (.inl rfl) hclose)) h
    rw [ink_skip] at hlt'
    exact ⟨rest', hclosed, hr, by omega⟩
  next hparen =>
    rw [if_neg hparen]
    exact named_carries hn ht hle h hfree

/-- No mark of a suffix or of an argument list stands where a tree ends. -/
theorem halts_operand (h : Halts 0 s) :
    mark? "?." s = none ∧ mark? "." s = none ∧ mark? "[" s = none ∧ mark? "(" s = none :=
  ⟨halts_no_mark "?." (by decide) (by decide) h, halts_no_mark "." (by decide) (by decide) h,
    halts_no_mark "[" (by decide) (by decide) h, halts_no_mark "(" (by decide) (by decide) h⟩

theorem no_suffix (hsafe : mark? "?." s = none) (hpoint : mark? "." s = none)
    (hsquare : mark? "[" s = none) (steps : Nat) (target : Expr) :
    suffixesFrom nested steps target s = .accept target s := by
  cases steps <;> simp [suffixesFrom, member?, position, hsafe, hpoint, hsquare]

/-- An operand that ends a tree has no argument list behind it. -/
theorem suffixesFrom_free {steps : Nat} {target e : Expr}
    (h : suffixesFrom nested steps target s = .accept e rest) (hh : Halts 0 rest) :
    mark? "(" s = none := by
  cases hm : mark? "(" s with
  | none => rfl
  | some q =>
    rw [no_suffix (mark_excludes (by decide) hm) (mark_excludes (by decide) hm)
      (mark_excludes (by decide) hm)] at h
    cases h
    rw [(halts_operand hh).2.2.2] at hm
    cases hm

theorem member_twin {safe : Bool} {member : String} (ht : Twin z s s')
    (h : member? s = some (safe, member, r)) :
    ∃ r', member? s' = some (safe, member, r') ∧ Twin z r r' ∧ ink r' < ink s' := by
  unfold member? at h
  split at h
  next q hm =>
    obtain ⟨⟨name, r₂⟩, hname, heq⟩ := Option.map_eq_some_iff.mp h
    simp only [Prod.mk.injEq] at heq
    obtain ⟨rfl, rfl, rfl⟩ := heq
    obtain ⟨q', hm', hq, hlt⟩ := mark_twin (by decide) ht hm
    obtain ⟨r', hname', hr, hle⟩ := name_twin hq hname
    exact ⟨r', by simp [member?, hm', hname'], hr, by omega⟩
  next hno =>
    split at h
    next q hm =>
      obtain ⟨⟨name, r₂⟩, hname, heq⟩ := Option.map_eq_some_iff.mp h
      simp only [Prod.mk.injEq] at heq
      obtain ⟨rfl, rfl, rfl⟩ := heq
      have hno' : mark? "?." s' = none := mark_apart (by decide) (by decide) ht hno
      obtain ⟨q', hm', hq, hlt⟩ := mark_twin (by decide) ht hm
      obtain ⟨r', hname', hr, hle⟩ := name_twin hq hname
      exact ⟨r', by simp [member?, hno', hm', hname'], hr, by omega⟩
    next => cases h

theorem suffixesFrom_carries (hn : Carries z levels 6 nested (expression levels))
    (steps steps' : Nat)
    {target e : Expr} (ht : Twin z s s') (hle : ink s' ≤ levels + 1) (hsteps : ink s' ≤ steps')
    (h : suffixesFrom nested steps target s = .accept e rest) (hh : Halts 0 rest) :
    Mirrors z (suffixesFrom (expression levels) steps' target) s' e rest := by
  have hstop : ∀ {s s' : List Char} {steps' : Nat} {target : Expr}, Twin z s s' → Halts 0 s →
      Mirrors z (suffixesFrom (expression levels) steps' target) s' target s := by
    intro s s' steps' target ht hh
    obtain ⟨hsafe, hpoint, hsquare, -⟩ := halts_operand hh
    exact ⟨s', no_suffix (mark_apart (by decide) (by decide) ht hsafe)
      (mark_apart (by decide) (by decide) ht hpoint)
      (mark_apart (by decide) (by decide) ht hsquare) steps' target, ht, Nat.le_refl _⟩
  induction steps generalizing s s' target steps' with
  | zero =>
    cases h
    exact hstop ht hh
  | succ steps ih =>
    rw [suffixesFrom] at h
    split at h
    next safe member q hm =>
      obtain ⟨q', hm', hq, hlt⟩ := member_twin ht hm
      obtain ⟨k, rfl⟩ : ∃ k, steps' = k + 1 := ⟨steps' - 1, by omega⟩
      split at h
      next args q₂ hargs =>
        obtain ⟨q₂', hargs', hq₂, hle₂⟩ := arguments_carries hn hq (by omega) hargs
        obtain ⟨rest', hrest', hr, hle'⟩ := ih k hq₂ (by omega) (by omega) h
        exact ⟨rest', by simp [suffixesFrom, hm', hargs', hrest'], hr, by omega⟩
      next =>
        have hno : arguments (expression levels) q' = .refuse := by
          rw [arguments, mark_apart (by decide) (by decide) hq (suffixesFrom_free h hh)]
        obtain ⟨rest', hrest', hr, hle'⟩ := ih k hq (by omega) (by omega) h
        exact ⟨rest', by simp [suffixesFrom, hm', hno, hrest'], hr, by omega⟩
      next => cases h
    next =>
      split at h
      next place q hplace =>
        obtain ⟨⟨q₀, hm⟩, q', hplace', hq, hlt⟩ := position_carries hn ht hle hplace
        have hsafe : mark? "?." s' = none :=
          mark_apart (by decide) (by decide) ht (mark_excludes (by decide) hm)
        have hpoint : mark? "." s' = none :=
          mark_apart (by decide) (by decide) ht (mark_excludes (by decide) hm)
        obtain ⟨k, rfl⟩ : ∃ k, steps' = k + 1 := ⟨steps' - 1, by omega⟩
        obtain ⟨rest', hrest', hr, hle'⟩ := ih k hq (by omega) (by omega) h
        exact ⟨rest', by simp [suffixesFrom, member?, hsafe, hpoint, hplace', hrest'], hr, by omega⟩
      next =>
        cases h
        exact hstop ht hh
      next => cases h

theorem postfixed_carries (hz : Apart z) (hn : Carries z levels 6 nested (expression levels)) :
    Carries z (levels + 1) 0 (postfixed nested) (postfixed (expression levels)) := by
  intro s s' e rest ht hle h hh
  obtain ⟨target, q, hprimary, hsuffixes⟩ := andThen_accepts h
  have hfree : mark? "(" q = none := by
    have hfree := suffixesFrom_free hsuffixes hh
    rwa [mark?, skip_skipped] at hfree
  obtain ⟨q', hprimary', hq, hle'⟩ :=
    primary_carries hz hn (skip_twin ht) (by rwa [ink_skip]) hprimary hfree
  rw [ink_skip] at hle'
  obtain ⟨rest', hrest', hr, hle''⟩ :=
    suffixesFrom_carries hn _ (skipSpace q').length (skip_twin hq)
    (by rw [ink_skip]; omega) (ink_length _) hsuffixes hh
  rw [ink_skip] at hle''
  exact ⟨rest', by simp [postfixed, hprimary', hrest', Reply.andThen], hr, by omega⟩

variable {operand operand' : Parser Expr}

theorem chainFrom_halts (hn : n ≤ 4) {steps : Nat} {left e : Expr}
    (h : chainFrom (jointOf n) operand steps left s = .accept e rest) (hh : Halts (n + 2) rest) :
    Halts (n + 1) s := by
  cases hj : jointOf n s with
  | some found => exact joint_halts hn hj
  | none =>
    have hstop : chainFrom (jointOf n) operand steps left s = .accept left s := by
      cases steps <;> simp [chainFrom, hj]
    rw [hstop] at h
    cases h
    exact halts_mono (Nat.le_succ _) hh

theorem chainFrom_carries (hn : n ≤ 4) (ho : Carries z m (n + 1) operand operand')
    (steps steps' : Nat) {left e : Expr} (ht : Twin z s s') (hle : ink s' ≤ m)
    (hsteps : ink s' ≤ steps') (h : chainFrom (jointOf n) operand steps left s = .accept e rest)
    (hh : Halts (n + 2) rest) :
    Mirrors z (chainFrom (jointOf n) operand' steps' left) s' e rest := by
  have hstop : ∀ {s s' : List Char} {steps' : Nat} {left : Expr}, Twin z s s' → jointOf n s = none →
      Mirrors z (chainFrom (jointOf n) operand' steps' left) s' left s := by
    intro s s' steps' left ht hno
    have hno' := joint_apart ht hno
    exact ⟨s', by cases steps' <;> simp [chainFrom, hno'], ht, Nat.le_refl _⟩
  induction steps generalizing s s' left steps' with
  | zero =>
    cases h
    exact hstop ht (halts_no_joint hn hh)
  | succ steps ih =>
    rw [chainFrom] at h
    split at h
    next hno =>
      cases h
      exact hstop ht hno
    next join q hj =>
      obtain ⟨q', hj', hq, hlt⟩ := joint_twin ht hj
      split at h
      next right q₂ hright =>
        obtain ⟨q₂', hright', hq₂, hle₂⟩ :=
          ho _ _ _ _ hq (by omega) hright (chainFrom_halts hn h hh)
        obtain ⟨k, rfl⟩ : ∃ k, steps' = k + 1 := ⟨steps' - 1, by omega⟩
        obtain ⟨rest', hrest', hr, hle'⟩ := ih k hq₂ (by omega) (by omega) h
        exact ⟨rest', by simp [chainFrom, hj', hright', hrest'], hr, by omega⟩
      next =>
        cases h
        rw [halts_no_joint hn hh] at hj
        cases hj
      next => cases h

theorem chain_carries (hn : n ≤ 4) (ho : Carries z m (n + 1) operand operand') :
    Carries z m (n + 2) (chain (jointOf n) operand) (chain (jointOf n) operand') := by
  intro s s' e rest ht hle h hh
  obtain ⟨left, q, hleft, hchain⟩ := andThen_accepts h
  obtain ⟨q', hleft', hq, hle'⟩ := ho _ _ _ _ ht hle hleft (chainFrom_halts hn hchain hh)
  obtain ⟨rest', hrest', hr, hle''⟩ :=
    chainFrom_carries hn ho _ q'.length hq (by omega) (ink_length q') hchain hh
  exact ⟨rest', by simp [chain, hleft', hrest', Reply.andThen], hr, by omega⟩

theorem binaries_carries (ho : Carries z m 1 operand operand') :
    Carries z m 6 (binaries operand) (binaries operand') :=
  chain_carries (n := 4) (by decide) (chain_carries (n := 3) (by decide)
    (chain_carries (n := 2) (by decide) (chain_carries (n := 1) (by decide)
      (chain_carries (n := 0) (by decide) ho))))

theorem unaryOver_carries {negated : Parser Expr} (hz : Apart z)
    (hneg : Carries z levels 1 negated (unary levels))
    (hn : Carries z levels 6 nested (expression levels)) :
    Carries z (levels + 1) 1 (unaryOver negated nested) (unary (levels + 1)) := by
  intro s s' e rest ht hle h hh
  unfold unaryOver at h
  split at h
  next q hm =>
    obtain ⟨operand, hoperand, rfl⟩ := map_accepts h
    obtain ⟨q', hm', hq, hlt⟩ := mark_twin (by decide) ht hm
    obtain ⟨rest', hoperand', hr, hle'⟩ := hneg _ _ _ _ hq (by omega) hoperand hh
    exact ⟨rest', by simp [unary, unaryOver, hm', hoperand', Reply.map, Reply.andThen],
      hr, by omega⟩
  next hno =>
    have hno' : mark? "!" s' = none := mark_apart (by decide) (by decide) ht hno
    obtain ⟨rest', hrest', hr, hle'⟩ :=
      postfixed_carries hz hn _ _ _ _ ht hle h (halts_mono (Nat.zero_le 1) hh)
    refine ⟨rest', ?_, hr, hle'⟩
    rw [unary, unaryOver, hno']
    exact hrest'

theorem twin_ink (ht : Twin z s s') : 0 < ink s' := by
  obtain ⟨u, w, k, -, ⟨x, -, rfl⟩, -, rfl⟩ := ht
  have hpos : ink z < ink (')' :: z) := ink_positive (by decide) z
  simp only [ink_append]
  omega

/-- An allowance for every character that is no white space is enough. -/
theorem unary_carries (hz : Apart z) (levels levels' : Nat) :
    Carries z levels' 1 (unary levels) (unary levels') := by
  induction levels generalizing levels' with
  | zero =>
    cases levels' with
    | zero => exact fun _ _ _ _ ht hle => absurd (twin_ink ht) (by omega)
    | succ levels' => exact unaryOver_carries hz nofun nofun
  | succ levels ih =>
    cases levels' with
    | zero => exact fun _ _ _ _ ht hle => absurd (twin_ink ht) (by omega)
    | succ levels' => exact unaryOver_carries hz (ih levels') (binaries_carries (ih levels'))

theorem expression_carries (hz : Apart z) (levels levels' : Nat) :
    Carries z levels' 6 (expression levels) (expression levels') :=
  binaries_carries (unary_carries hz levels levels')

end ActionDispatch.Script
