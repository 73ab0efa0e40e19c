import ActionDispatch.Proofs.Script.Operands

/-!
# Texts that begin alike

Two texts that begin alike, the one with white space behind the common beginning and the other with
a closing parenthesis. Neither white space nor a parenthesis continues a word, so that the scanners
of scripts read the same words from both as far as the common beginning reaches.
-/

set_option autoImplicit false

namespace ActionDispatch.Script
open Text

def IsQuote (q : Char) : Prop := q = '"' ∨ q = '\''

def Apart (z : List Char) : Prop := ∀ q, IsQuote q → cut? [q, q, q] z = none

def Tail (z k : List Char) : Prop := ∃ x, Blank x ∧ k = x ++ ')' :: z

/-- The second text has a tail where the first one has white space. -/
def Twin (z s s' : List Char) : Prop :=
  ∃ u w k, Blanks w ∧ Tail z k ∧ s = u ++ w ∧ s' = u ++ k

variable {z s s' k u w r : List Char} {q : Char}

theorem tail_head (h : Tail z k) : ∃ c r, k = c :: r ∧ (isSpace c = true ∨ c = ')') := by
  obtain ⟨x, hx, rfl⟩ := h
  cases x with
  | nil => exact ⟨_, _, rfl, .inr rfl⟩
  | cons c x => exact ⟨c, _, rfl, .inl (hx c (by simp))⟩

theorem tail_apart {c : Char} (hc : isSpace c = false ∧ c ≠ ')') (h : Tail z k) :
    k.head? ≠ some c := by
  obtain ⟨d, r, rfl, hd⟩ := tail_head h
  intro hdc
  obtain rfl : d = c := by simpa using hdc
  rcases hd with hd | hd
  · rw [hc.1] at hd
    cases hd
  · exact hc.2 hd

theorem tail_skip (h : Tail z k) : skipSpace k = ')' :: z := by
  obtain ⟨x, hx, rfl⟩ := h
  rw [blank_skipped hx]
  rfl

theorem tail_skipped (h : Tail z k) : Tail z (skipSpace k) :=
  ⟨[], by simp [Blank], tail_skip h⟩

theorem twin_tail (hw : Blanks w) (hk : Tail z k) (u : List Char) : Twin z (u ++ w) (u ++ k) :=
  ⟨u, w, k, hw, hk, rfl, rfl⟩

theorem blanks_apart {c : Char} (hc : isBlank c = false) (hw : Blanks w) : w.head? ≠ some c := by
  intro hhead
  rw [hw c (List.mem_of_head? hhead)] at hc
  cases hc

theorem head_apart {c : Char} (hs : s.head? ≠ some c) (ht : s'.head? ≠ some c) :
    (s ++ s').head? ≠ some c := by
  cases s with
  | nil => exact ht
  | cons d s => exact hs

theorem blanks_drop {p : Char → Bool} (hw : Blanks w) : Blanks (w.dropWhile p) :=
  fun c hc => hw c ((List.dropWhile_sublist p).subset hc)

theorem skip_append (u k : List Char) :
    skipSpace (u ++ k) = if Blank u then skipSpace k else skipSpace u ++ k := by
  induction u with
  | nil => simp [Blank]
  | cons c u ih =>
    by_cases hc : isSpace c = true
    · have hu : Blank (c :: u) ↔ Blank u := by simp [Blank, hc]
      have hdrop : ∀ r, skipSpace (c :: r) = skipSpace r := fun r => List.dropWhile_cons_of_pos hc
      rw [List.cons_append, hdrop, hdrop, ih]
      simp [hu]
    · have hu : ¬Blank (c :: u) := fun h => hc (h c (by simp))
      rw [if_neg hu, List.cons_append, skipSpace, skipSpace, List.dropWhile_cons_of_neg hc,
        List.dropWhile_cons_of_neg hc, List.cons_append]

theorem skip_twin (h : Twin z s s') : Twin z (skipSpace s) (skipSpace s') := by
  obtain ⟨u, w, k, hw, hk, rfl, rfl⟩ := h
  rw [skip_append, skip_append]
  split
  · exact ⟨[], _, _, blanks_drop hw, tail_skipped hk, rfl, rfl⟩
  · exact twin_tail hw hk _

def ink (s : List Char) : Nat := s.countP (!isSpace ·)

@[simp] theorem ink_nil : ink [] = 0 := rfl

@[simp] theorem ink_append (s t : List Char) : ink (s ++ t) = ink s + ink t :=
  List.countP_append

theorem ink_le {s t : List Char} (h : List.Sublist s t) : ink s ≤ ink t :=
  h.countP_le

theorem ink_blank (h : Blank s) : ink s = 0 := by
  simpa [ink, List.countP_eq_zero, Blank] using h

@[simp] theorem ink_skip (s : List Char) : ink (skipSpace s) = ink s := by
  have hsplit : s.takeWhile isSpace ++ skipSpace s = s := List.takeWhile_append_dropWhile
  have hblank : ink (s.takeWhile isSpace) = 0 := ink_blank fun _ => List.mem_takeWhile_imp
  calc ink (skipSpace s) = ink (s.takeWhile isSpace) + ink (skipSpace s) := by omega
    _ = ink s := by rw [← ink_append, hsplit]

theorem ink_positive {c : Char} (hc : isSpace c = false) (s : List Char) :
    ink s < ink (c :: s) := by
  simp [ink, hc]

theorem ink_length (s : List Char) : ink s ≤ s.length :=
  List.countP_le_length

theorem space_blank {c : Char} (hc : isSpace c = true) : isBlank c = true :=
  space_holds isBlank (by decide) hc

theorem unblank_space {c : Char} (hc : isBlank c = false) : isSpace c = false := by
  cases hs : isSpace c with
  | false => rfl
  | true => rw [space_blank hs] at hc; cases hc

/-- A word without white space lies within the common beginning. -/
theorem append_within {m : List Char} (hm : ∀ c ∈ m, isBlank c = false) (hw : Blanks w)
    (h : m ++ r = u ++ w) : ∃ v, u = m ++ v ∧ r = v ++ w := by
  rcases List.append_eq_append_iff.mp h with ⟨x, rfl, rfl⟩ | ⟨x, rfl, rfl⟩
  · exact ⟨x, rfl, rfl⟩
  · cases x with
    | nil => exact ⟨[], by simp, by simp⟩
    | cons c x =>
      have hc := hm c (by simp)
      rw [hw c (by simp)] at hc
      cases hc

theorem after_within {m : List Char} (hm : ∀ c ∈ m, isBlank c = false) (hw : Blanks w)
    (h : after? m (u ++ w) = some r) : ∃ v, u = m ++ v ∧ r = v ++ w :=
  append_within hm hw (of_after h).symm

theorem twin_behind {m : List Char} (hm : ∀ c ∈ m, isBlank c = false) (h : Twin z (m ++ s) s') :
    ∃ r, s' = m ++ r ∧ Twin z s r := by
  obtain ⟨u, w, k, hw, hk, hs, rfl⟩ := h
  obtain ⟨v, rfl, rfl⟩ := append_within hm hw hs
  exact ⟨v ++ k, List.append_assoc .., twin_tail hw hk v⟩

/-- A word without a parenthesis is not found across the end of the common beginning. -/
theorem after_apart {m : List Char} (hm : ∀ c ∈ m, isBlank c = false) (hp : ')' ∉ m)
    (hk : Tail z k) (h : after? m (u ++ w) = none) : after? m (u ++ k) = none := by
  induction m generalizing u with
  | nil => simp [after?] at h
  | cons c m ih =>
    have hrest : ∀ d ∈ m, isBlank d = false := fun d hd => hm d (by simp [hd])
    cases u with
    | nil =>
      have hc : isSpace c = false ∧ c ≠ ')' :=
        ⟨unblank_space (hm c (by simp)), fun h => hp (by simp [h])⟩
      have hne := tail_apart hc hk
      obtain ⟨d, r, rfl, -⟩ := tail_head hk
      simp [after?, Ne.symm (by simpa using hne : d ≠ c)]
    | cons d u =>
      simp only [List.cons_append, after?] at h ⊢
      split
      next hcd =>
        rw [if_pos hcd] at h
        exact ih hrest (fun hc => hp (by simp [hc])) h
      next => rfl

structure IsMark (mark : String) : Prop where
  ne_nil : mark.toList ≠ []
  dense : mark.toList.all (!isBlank ·) = true
  unquoted : '"' ∉ mark.toList ∧ '\'' ∉ mark.toList

instance (mark : String) : Decidable (IsMark mark) :=
  decidable_of_iff (mark.toList ≠ [] ∧ mark.toList.all (!isBlank ·) = true ∧
    '"' ∉ mark.toList ∧ '\'' ∉ mark.toList)
    ⟨fun ⟨hne, hd, hq⟩ => ⟨hne, hd, hq⟩, fun ⟨hne, hd, hq⟩ => ⟨hne, hd, hq⟩⟩

theorem mark_ink {mark : String} (hm : IsMark mark) : 0 < ink mark.toList := by
  obtain ⟨c, m, hc⟩ := List.exists_cons_of_ne_nil hm.ne_nil
  have hblank : isBlank c = false := by
    have hdense := hm.dense
    rw [hc] at hdense
    simp only [List.all_cons, Bool.and_eq_true, Bool.not_eq_true'] at hdense
    exact hdense.1
  rw [hc]
  exact Nat.zero_lt_of_lt (ink_positive (unblank_space hblank) m)

theorem mark_twin {mark : String} (hm : IsMark mark) (h : Twin z s s')
    (hr : mark? mark s = some r) :
    ∃ r', mark? mark s' = some r' ∧ Twin z r r' ∧ ink r' < ink s' := by
  obtain ⟨u, w, k, hw, hk, hs, hs'⟩ := skip_twin h
  obtain ⟨r₀, hafter, rfl⟩ := Option.map_eq_some_iff.mp hr
  rw [hs] at hafter
  obtain ⟨v, rfl, rfl⟩ := after_within (by simpa using hm.dense) hw hafter
  have hlt : ink (skipSpace (v ++ k)) < ink s' := by
    rw [← ink_skip s', hs', List.append_assoc, ink_append mark.toList, ink_skip]
    exact Nat.lt_add_of_pos_left (mark_ink hm)
  refine ⟨_, ?_, skip_twin (twin_tail hw hk v), hlt⟩
  rw [mark?, hs', List.append_assoc, after_self]
  rfl

theorem mark_apart {mark : String} (hm : IsMark mark) (hp : ')' ∉ mark.toList) (h : Twin z s s')
    (hr : mark? mark s = none) : mark? mark s' = none := by
  obtain ⟨u, w, k, hw, hk, hs, hs'⟩ := skip_twin h
  have hafter : after? mark.toList (u ++ w) = none := by
    rw [← hs]
    simpa [mark?] using hr
  rw [mark?, hs', after_apart (by simpa using hm.dense) hp hk hafter]
  rfl

/-- A run of a class without white space and parenthesis ends within the common beginning. -/
theorem run_twin {p : Char → Bool} (hblank : ∀ c, isBlank c = true → p c = false)
    (hp : p ')' = false) (hw : Blanks w) (hk : Tail z k) (u : List Char) :
    (u ++ w).takeWhile p = u.takeWhile p ∧ (u ++ k).takeWhile p = u.takeWhile p ∧
      (u ++ w).dropWhile p = u.dropWhile p ++ w ∧ (u ++ k).dropWhile p = u.dropWhile p ++ k := by
  have hwends : EndsRun p w := by
    cases w with
    | nil => rfl
    | cons c w => simp [EndsRun, hblank c (hw c (by simp))]
  have hkends : EndsRun p k := by
    obtain ⟨c, r, rfl, hc⟩ := tail_head hk
    rcases hc with hc | rfl
    · simp [EndsRun, hblank c (space_blank hc)]
    · simp [EndsRun, hp]
  induction u with
  | nil =>
    obtain ⟨h1, h2⟩ := run_split (t := []) (by simp) hwends
    obtain ⟨h3, h4⟩ := run_split (t := []) (by simp) hkends
    exact ⟨h1, h3, h2, h4⟩
  | cons c u ih => by_cases hc : p c = true <;> simp_all

theorem blank_not_within_name {c : Char} (hc : isBlank c = true) : continuesName c = false :=
  blank_outside (by decide +kernel) hc

theorem blank_not_name {c : Char} (hc : isBlank c = true) : startsName c = false := by
  have hno := blank_not_within_name hc
  simp only [continuesName, isAlphanumeric, Bool.or_eq_false_iff] at hno
  simp [startsName, hno]

theorem name_twin {name : String} (h : Twin z s s') (hn : name? s = some (name, r)) :
    ∃ r', name? s' = some (name, r') ∧ Twin z r r' ∧ ink r' ≤ ink s' := by
  obtain ⟨u, w, k, hw, hk, rfl, rfl⟩ := h
  have hrun := run_twin (fun c hc => blank_not_within_name hc) (by decide) hw hk
  cases u with
  | nil =>
    cases w with
    | nil => cases hn
    | cons c w =>
      have hstart : startsName c = false := blank_not_name (hw c (by simp))
      simp [name?, hstart] at hn
  | cons c u =>
    obtain ⟨h1, h2, h3, h4⟩ := hrun u
    simp only [List.cons_append, name?, h1, h2, h3, h4] at hn ⊢
    split at hn
    next hc =>
      simp only [Option.some.injEq, Prod.mk.injEq] at hn
      obtain ⟨rfl, rfl⟩ := hn
      refine ⟨_, by rw [if_pos hc], twin_tail hw hk _, ?_⟩
      exact ink_le (((List.dropWhile_sublist _).append_right k).trans (List.sublist_cons_self c _))
    next => cases hn

theorem digits_plain (hne : (s.takeWhile Char.isDigit).isEmpty = false)
    (hp : (s.dropWhile Char.isDigit).head? ≠ some '.') :
    digits? s = some (s.takeWhile Char.isDigit, none, s.dropWhile Char.isDigit) := by
  simp only [digits?, hne, Bool.false_eq_true, if_false]
  split
  next rest hrest => simp [hrest] at hp
  next => rfl

theorem digits_point {v : List Char} (hne : (s.takeWhile Char.isDigit).isEmpty = false)
    (hp : s.dropWhile Char.isDigit = '.' :: v) :
    digits? s =
      if (v.takeWhile Char.isDigit).isEmpty then some (s.takeWhile Char.isDigit, none, '.' :: v)
      else some (s.takeWhile Char.isDigit, some (v.takeWhile Char.isDigit),
        v.dropWhile Char.isDigit) := by
  simp only [digits?, hne, hp, Bool.false_eq_true, if_false]

theorem digits_twin {whole : List Char} {fraction : Option (List Char)} (h : Twin z s s')
    (hd : digits? s = some (whole, fraction, r)) :
    ∃ r', digits? s' = some (whole, fraction, r') ∧ Twin z r r' ∧ ink r' ≤ ink s' := by
  obtain ⟨u, w, k, hw, hk, rfl, rfl⟩ := h
  have hblank : ∀ c, isBlank c = true → c.isDigit = false :=
    fun c hc => blank_outside (by decide) hc
  have hdrop : ∀ v : List Char, List.Sublist (v.dropWhile Char.isDigit) v :=
    fun v => List.dropWhile_sublist _
  have hrun := run_twin hblank (by decide) hw hk
  obtain ⟨h1, h2, h3, h4⟩ := hrun u
  have hu := hdrop u
  have hne : (u.takeWhile Char.isDigit).isEmpty = false := by
    cases hnone : (u.takeWhile Char.isDigit).isEmpty with
    | false => rfl
    | true => simp [digits?, h1, hnone] at hd
  by_cases hp : (u.dropWhile Char.isDigit).head? = some '.'
  · obtain ⟨v, hv⟩ := List.head?_eq_some_iff.mp hp
    obtain ⟨f1, f2, f3, f4⟩ := hrun v
    have hdv := hdrop v
    rw [hv] at hu
    rw [hv, List.cons_append] at h3 h4
    rw [digits_point (h1 ▸ hne) h3, h1, f1, f3] at hd
    rw [digits_point (h2 ▸ hne) h4, h2, f2, f4]
    split at hd
    next hfraction =>
      simp only [Option.some.injEq, Prod.mk.injEq] at hd
      obtain ⟨rfl, rfl, rfl⟩ := hd
      refine ⟨_, by rw [if_pos hfraction]; rfl, twin_tail hw hk ('.' :: v), ?_⟩
      exact ink_le (hu.append_right k)
    next hfraction =>
      simp only [Option.some.injEq, Prod.mk.injEq] at hd
      obtain ⟨rfl, rfl, rfl⟩ := hd
      refine ⟨_, by rw [if_neg hfraction], twin_tail hw hk _, ?_⟩
      exact ink_le ((hdv.trans ((List.sublist_cons_self '.' v).trans hu)).append_right k)
  · -- no point begins what may stand behind the common beginning
    have hwp := head_apart hp (blanks_apart (by decide) hw)
    have hkp := head_apart hp (tail_apart (by decide) hk)
    rw [digits_plain (h1 ▸ hne) (h3 ▸ hwp), h1, h3] at hd
    simp only [Option.some.injEq, Prod.mk.injEq] at hd
    obtain ⟨rfl, rfl, rfl⟩ := hd
    exact ⟨_, by rw [digits_plain (h2 ▸ hne) (h4 ▸ hkp), h2, h4], twin_tail hw hk _,
      ink_le (hu.append_right k)⟩

theorem number_twin {negative : Bool} {v : Value} (h : Twin z s s')
    (hn : number? negative s = some (v, r)) :
    ∃ r', number? negative s' = some (v, r') ∧ Twin z r r' ∧ ink r' ≤ ink s' := by
  unfold number? at hn
  split at hn
  next => cases hn
  next hd =>
    obtain ⟨r', hd', ht, hle⟩ := digits_twin h hd
    simp only [Option.some.injEq, Prod.mk.injEq] at hn
    obtain ⟨rfl, rfl⟩ := hn
    exact ⟨r', by simp [number?, hd'], ht, hle⟩
  next hd =>
    obtain ⟨r', hd', ht, hle⟩ := digits_twin h hd
    obtain ⟨n, hint, heq⟩ := Option.map_eq_some_iff.mp hn
    simp only [Prod.mk.injEq] at heq
    obtain ⟨rfl, rfl⟩ := heq
    exact ⟨r', by simp [number?, hd', hint], ht, hle⟩

theorem quote_not_blank (hq : IsQuote q) : isBlank q = false ∧ q ≠ '\\' ∧ q ≠ ')' := by
  rcases hq with rfl | rfl <;> decide

theorem content_blanks (hq : IsQuote q) (hw : Blanks w) : quotedContent? q w = none := by
  obtain ⟨hblank, -⟩ := quote_not_blank hq
  induction w with
  | nil => rfl
  | cons c w ih =>
    have hc : isBlank c = true := hw c (by simp)
    have hne : c ≠ '\\' := by rintro rfl; cases hc
    have hcq : c ≠ q := by rintro rfl; rw [hblank] at hc; cases hc
    simp [content_step hne, hcq, ih fun d hd => hw d (by simp [hd])]

/-- A string that is closed is closed within the common beginning. -/
theorem content_twin {content : List Char} (hq : IsQuote q) (hw : Blanks w)
    (h : quotedContent? q (u ++ w) = some (content, r)) :
    ∃ v, r = v ++ w ∧ List.Sublist v u ∧
      ∀ k, quotedContent? q (u ++ k) = some (content, v ++ k) := by
  fun_induction quotedContent? q u generalizing content with
  | case1 =>
    rw [List.nil_append, content_blanks hq hw] at h
    cases h
  | case2 =>
    cases w with
    | nil => cases h
    | cons c w =>
      rw [List.singleton_append, quotedContent?,
        content_blanks hq fun d hd => hw d (by simp [hd])] at h
      cases h
  | case3 c u ih =>
    simp only [List.cons_append, quotedContent?] at h ⊢
    obtain ⟨⟨content', r'⟩, hc, heq⟩ := Option.map_eq_some_iff.mp h
    simp only [Prod.mk.injEq] at heq
    obtain ⟨rfl, rfl⟩ := heq
    obtain ⟨v, rfl, hle, hk⟩ := ih hc
    exact ⟨v, rfl, (hle.cons c).cons '\\', fun k => by rw [hk]; rfl⟩
  | case4 u _ _ =>
    have hstep : ∀ t : List Char, quotedContent? q (q :: u ++ t) = some ([], u ++ t) := by
      intro t
      rw [List.cons_append, content_step (quote_not_blank hq).2.1, if_pos rfl]
    rw [hstep] at h
    simp only [Option.some.injEq, Prod.mk.injEq] at h
    obtain ⟨rfl, rfl⟩ := h
    exact ⟨u, rfl, List.sublist_cons_self q u, hstep⟩
  | case5 c u hend hback hcq ih =>
    have hc : c ≠ '\\' := by
      intro hc
      cases u with
      | nil => exact hend hc rfl
      | cons d u => exact hback d u hc rfl
    have hstep : ∀ t : List Char, quotedContent? q (c :: u ++ t) =
        (quotedContent? q (u ++ t)).map fun found => (c :: found.1, found.2) := by
      intro t
      rw [List.cons_append, content_step hc, if_neg hcq]
    rw [hstep] at h
    obtain ⟨⟨content', r'⟩, hcontent, heq⟩ := Option.map_eq_some_iff.mp h
    simp only [Prod.mk.injEq] at heq
    obtain ⟨rfl, rfl⟩ := heq
    obtain ⟨v, rfl, hle, hk⟩ := ih hcontent
    exact ⟨v, rfl, hle.cons c, fun k => by rw [hstep, hk]; rfl⟩

/-- A word that fits into the common beginning is found in both texts or in none. -/
theorem after_alike {m : List Char} (hle : m.length ≤ u.length) (h : after? m (u ++ w) = none)
    (k : List Char) : after? m (u ++ k) = none := by
  cases hk : after? m (u ++ k) with
  | none => rfl
  | some r' =>
    obtain ⟨v, rfl⟩ := List.prefix_of_prefix_length_le (List.prefix_append m r')
      (of_after hk ▸ List.prefix_append u k) hle
    rw [List.append_assoc, after_self] at h
    cases h

theorem cut_blanks {m : List Char} (hm : ∀ c ∈ m, isBlank c = false) (hne : m ≠ [])
    (hw : Blanks w) :
    cut? m w = none := by
  cases hcut : cut? m w with
  | none => rfl
  | some found =>
    obtain ⟨before, rest⟩ := found
    obtain ⟨c, m, rfl⟩ := List.exists_cons_of_ne_nil hne
    have hc := hw c (by rw [of_cut hcut]; simp)
    rw [hm c (by simp)] at hc
    cases hc

theorem cut_twin {m before : List Char} (hm : ∀ c ∈ m, isBlank c = false) (hne : m ≠ [])
    (hw : Blanks w) (h : cut? m (u ++ w) = some (before, r)) :
    ∃ v, r = v ++ w ∧ List.Sublist v u ∧ ∀ k, cut? m (u ++ k) = some (before, v ++ k) := by
  induction u generalizing before with
  | nil => rw [List.nil_append, cut_blanks hm hne hw] at h; cases h
  | cons c u ih =>
    rw [List.cons_append, cut?] at h
    split at h
    next r' hafter =>
      simp only [Option.some.injEq, Prod.mk.injEq] at h
      obtain ⟨rfl, rfl⟩ := h
      obtain ⟨v, hv, rfl⟩ := after_within (u := c :: u) hm hw hafter
      refine ⟨v, rfl, hv ▸ List.sublist_append_right m v, fun k => ?_⟩
      have hself : after? m (c :: (u ++ k)) = some (v ++ k) := by
        rw [← List.cons_append, hv, List.append_assoc, after_self]
      rw [List.cons_append, cut?, hself]
    next hafter =>
      obtain ⟨⟨b, r'⟩, hcut, heq⟩ := Option.map_eq_some_iff.mp h
      simp only [Prod.mk.injEq] at heq
      obtain ⟨rfl, rfl⟩ := heq
      obtain ⟨v, rfl, hle, hk⟩ := ih hcut
      refine ⟨v, rfl, hle.cons c, fun k => ?_⟩
      have hlen := congrArg List.length (of_cut hcut)
      simp only [List.length_append] at hlen
      have hfits : m.length ≤ (c :: u).length := by
        simp only [List.length_cons]
        omega
      rw [List.cons_append, cut?, ← List.cons_append, after_alike (u := c :: u) hfits hafter, hk]
      rfl

/-- What is not cut in front of white space is not cut in front of a tail. -/
theorem cut_apart {m : List Char} (hm : ∀ c ∈ m, isBlank c = false) (hp : ')' ∉ m) (hne : m ≠ [])
    (hk : Tail z k) (hz : cut? m z = none) (h : cut? m (u ++ w) = none) :
    cut? m (u ++ k) = none := by
  induction u with
  | nil =>
    obtain ⟨d, m, rfl⟩ := List.exists_cons_of_ne_nil hne
    obtain ⟨x, hx, rfl⟩ := hk
    rw [List.nil_append]
    induction x with
    | nil =>
      have hd : d ≠ ')' := by
        rintro rfl
        simp at hp
      simp [cut?, after?, hd, hz]
    | cons c x ih =>
      have hd : d ≠ c := by
        rintro rfl
        have hblank := hm d (by simp)
        rw [space_blank (hx d (by simp))] at hblank
        cases hblank
      have hrest := ih fun e he => hx e (by simp [he])
      simp only [List.cons_append, cut?, after?, if_neg hd, hrest, Option.map_none]
  | cons c u ih =>
    rw [List.cons_append, cut?] at h
    split at h
    next => cases h
    next hafter =>
      have hnone := after_apart (u := c :: u) hm hp hk hafter
      have hrest := ih (Option.map_eq_none_iff.mp h)
      rw [List.cons_append, cut?, ← List.cons_append, hnone, hrest]
      rfl

theorem string_twin {content : List Char} (hq : IsQuote q) (hz : Apart z) (h : Twin z s s')
    (hs : string? q s = some (content, r)) :
    ∃ r', string? q s' = some (content, r') ∧ Twin z r r' ∧ ink r' ≤ ink s' := by
  obtain ⟨u, w, k, hw, hk, rfl, rfl⟩ := h
  obtain ⟨hblank, -, hp⟩ := quote_not_blank hq
  have htwo : (∀ c ∈ [q, q], isBlank c = false) ∧ ')' ∉ [q, q] := by simp [hblank, Ne.symm hp]
  have hthree : (∀ c ∈ [q, q, q], isBlank c = false) ∧ ')' ∉ [q, q, q] := by
    simp [hblank, Ne.symm hp]
  have hcontent : quotedContent? q (u ++ w) = some (content, r) →
      ∃ v, r = v ++ w ∧ List.Sublist v u ∧ quotedContent? q (u ++ k) = some (content, v ++ k) := by
    intro hs
    obtain ⟨v, hr, hle, hv⟩ := content_twin hq hw hs
    exact ⟨v, hr, hle, hv k⟩
  have hend : ∀ v : List Char, r = v ++ w → List.Sublist v u →
      string? q (u ++ k) = some (content, v ++ k) →
      ∃ r', string? q (u ++ k) = some (content, r') ∧ Twin z r r' ∧ ink r' ≤ ink (u ++ k) := by
    rintro v rfl hle hv
    exact ⟨_, hv, twin_tail hw hk v, ink_le (hle.append_right k)⟩
  unfold string? at hs
  cases ha : after? [q, q] (u ++ w) with
  | none =>
    rw [ha, Option.bind_none] at hs
    obtain ⟨v, hr, hle, hv⟩ := hcontent hs
    refine hend v hr hle ?_
    rw [string?, after_apart htwo.1 htwo.2 hk ha]
    exact hv
  | some body =>
    obtain ⟨b, rfl, rfl⟩ := after_within htwo.1 hw ha
    have hself : after? [q, q] ([q, q] ++ b ++ k) = some (b ++ k) := by
      rw [List.append_assoc, after_self]
    cases hc : cut? [q, q, q] (b ++ w) with
    | some found =>
      obtain ⟨before, r'⟩ := found
      rw [ha, Option.bind_some, hc] at hs
      simp only [Option.some.injEq, Prod.mk.injEq] at hs
      obtain ⟨rfl, rfl⟩ := hs
      obtain ⟨v, hr, hle, hv⟩ := cut_twin hthree.1 (by simp) hw hc
      refine hend v hr (hle.trans (List.sublist_append_right [q, q] b)) ?_
      rw [string?, hself, Option.bind_some, hv]
    | none =>
      rw [ha, Option.bind_some, hc] at hs
      obtain ⟨v, hr, hle, hv⟩ := hcontent hs
      refine hend v hr hle ?_
      rw [string?, hself, Option.bind_some,
        cut_apart hthree.1 hthree.2 (by simp) hk (hz q hq) hc]
      exact hv

end ActionDispatch.Script
