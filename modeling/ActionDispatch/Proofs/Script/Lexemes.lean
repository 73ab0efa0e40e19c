import ActionDispatch.Proofs.Script.Boundary
import ActionDispatch.Proofs.Script.Tokens

/-!
# Lexemes

What parsers read, cut into the pieces that the scanner of the nesting takes for one token or
passes: characters that it does not look at, marks, and strings that are closed. The scanner and the
parsers agree on a text as far as it can be cut in this way.
-/

set_option autoImplicit false

namespace ActionDispatch.Script
open Text

def strange : List Char := ['\\', '\x7b', '\x7d']

structure Counts (mark : String) (t : Token) : Prop extends IsMark mark where
  bare : mark.toList.all (fun c => !('|' :: '"' :: '\'' :: strange).contains c) = true
  counted : t ≠ .other
  next : ∀ r, Token.next? (mark.toList ++ r) = some (t, r)

theorem Counts.lacks {mark : String} {t : Token} (h : Counts mark t) :
    ∀ c ∈ '|' :: '"' :: '\'' :: strange, c ∉ mark.toList := by
  intro c hc hin
  have hbare := List.all_eq_true.mp h.bare c hin
  rw [List.contains_iff_mem.mpr hc] at hbare
  cases hbare

/-- The pieces of a text up to a place, with the tokens that count. A bar stands in a string or is
one of two that have something behind them; backslashes and braces stand in strings only. -/
inductive Lexes : List Char → List Token → List Char → Prop where
  | done {s : List Char} : Lexes s [] s
  | plain {c : Char} {s rest : List Char} {ts : List Token} :
      c ∉ scanned ++ strange → Lexes s ts rest →
      Lexes (c :: s) ts rest
  | mark {mark : String} {t : Token} {s rest : List Char} {ts : List Token} : Counts mark t →
      Lexes s ts rest → Lexes (mark.toList ++ s) (t :: ts) rest
  | bars {s rest : List Char} {ts : List Token} : s ≠ [] → Lexes s ts rest →
      Lexes ('|' :: '|' :: s) (.operator :: ts) rest
  | negation {s rest : List Char} {ts : List Token} : s.head? ≠ some '=' → Lexes s ts rest →
      Lexes ('!' :: s) (.operator :: ts) rest
  | string {q : Char} {s r content rest : List Char} {ts : List Token} : IsQuote q →
      string? q s = some (content, r) → r.head? ≠ some q → Lexes r ts rest → Lexes (q :: s) ts rest

variable {s s' r rest z : List Char} {ts us : List Token}

theorem Lexes.trans (h : Lexes s ts r) (h' : Lexes r us rest) : Lexes s (ts ++ us) rest := by
  induction h with
  | done => exact h'
  | plain hc _ ih => exact .plain hc (ih h')
  | mark hm _ ih => exact .mark hm (ih h')
  | bars hne _ ih => exact .bars hne (ih h')
  | negation heq _ ih => exact .negation heq (ih h')
  | string hq hs hne _ ih => exact .string hq hs hne (ih h')

/-- In front of `=` the mark of a negation would count together with it. -/
theorem negation_token (h : s.head? ≠ some '=') : marks ('!' :: s) = .operator :: marks s := by
  have hpair : isPair '!' s.head? = false := by
    unfold isPair
    split <;> simp_all
  exact marks_counted (by decide) (by simp [Token.next?, hpair])

theorem lexes_marks (h : Lexes s ts rest) : marks s = ts ++ marks rest := by
  induction h with
  | done => rfl
  | plain hc _ ih => rw [unscanned_passed fun hin => hc (List.mem_append_left _ hin), ih]
  | mark hm _ ih => rw [marks_counted hm.counted (hm.next _), ih]; rfl
  | bars _ _ ih => rw [marks_counted (t := .operator) (by decide) rfl, List.tail_cons, ih]; rfl
  | negation heq _ ih => rw [negation_token heq, ih]; rfl
  | string hq hs hne _ ih => rw [(string_passed hq hs).resolve_right hne, ih]

theorem class_lexes {p : Char → Bool} (hp : (scanned ++ strange).all (!p ·) = true)
    (s : List Char) :
    Lexes s [] (s.dropWhile p) := by
  induction s with
  | nil => exact .done
  | cons c s ih =>
    by_cases hc : p c = true
    · have hno : c ∉ scanned ++ strange := by
        intro hs
        have := List.all_eq_true.mp hp c hs
        simp [hc] at this
      rw [List.dropWhile_cons_of_pos hc]
      exact .plain hno ih
    · rw [List.dropWhile_cons_of_neg hc]
      exact .done

theorem space_lexes (s : List Char) : Lexes s [] (skipSpace s) :=
  class_lexes (by decide) s

theorem name_lexes {name : String} (h : name? s = some (name, rest)) : Lexes s [] rest := by
  cases s with
  | nil => cases h
  | cons c s =>
    simp only [name?] at h
    split at h
    next hc =>
      simp only [Option.some.injEq, Prod.mk.injEq] at h
      have hcont : continuesName c = true := by
        simp only [startsName, continuesName, isAlphanumeric, Bool.or_eq_true] at hc ⊢
        grind
      have hlexes := class_lexes (p := continuesName) (by decide) (c :: s)
      rwa [List.dropWhile_cons_of_pos hcont, h.2] at hlexes
    next => cases h

/-- The point of a number counts as an operator. -/
theorem digits_lexes {whole : List Char} {fraction : Option (List Char)}
    (h : digits? s = some (whole, fraction, rest)) :
    Lexes s [] rest ∨ Lexes s [.operator] rest := by
  have hpass : ∀ r : List Char, Lexes r [] (r.dropWhile Char.isDigit) := class_lexes (by decide)
  have hpoint : Counts "." .operator := ⟨by decide, by decide, by decide, fun _ => rfl⟩
  have hs := hpass s
  unfold digits? at h
  simp only at h
  split at h
  · cases h
  split at h
  next rest' hd =>
    rw [hd] at hs
    split at h <;> simp only [Option.some.injEq, Prod.mk.injEq] at h
    · exact .inl (h.2.2 ▸ hs)
    · exact .inr (h.2.2 ▸ hs.trans (.mark hpoint (hpass rest')))
  next =>
    simp only [Option.some.injEq, Prod.mk.injEq] at h
    exact .inl (h.2.2 ▸ hs)

theorem number_lexes {negative : Bool} {v : Value} (h : number? negative s = some (v, rest)) :
    Lexes s [] rest ∨ Lexes s [.operator] rest := by
  unfold number? at h
  split at h
  · cases h
  next hd =>
    simp only [Option.some.injEq, Prod.mk.injEq] at h
    exact h.2 ▸ digits_lexes hd
  next hd =>
    simp only [Option.map_eq_some_iff, Prod.mk.injEq] at h
    obtain ⟨n, -, -, rfl⟩ := h
    exact digits_lexes hd

theorem name_passed {name : String} (h : name? s = some (name, rest)) : marks s = marks rest :=
  lexes_marks (name_lexes h)

theorem mark_lexes {mark : String} {t : Token} (hm : Counts mark t) (h : mark? mark s = some rest) :
    Lexes s [t] rest := by
  obtain ⟨r, hr, rfl⟩ := Option.map_eq_some_iff.mp h
  have hs := space_lexes s
  rw [of_after hr] at hs
  exact hs.trans (.mark hm (space_lexes r))

theorem bars_lexes (h : mark? "||" s = some rest) (hne : rest ≠ []) : Lexes s [.operator] rest := by
  obtain ⟨r, hr, rfl⟩ := Option.map_eq_some_iff.mp h
  have hs := space_lexes s
  rw [of_after hr] at hs
  refine hs.trans (.bars ?_ (space_lexes r))
  rintro rfl
  exact hne rfl

theorem head_twin {c : Char} (hc : isSpace c = false ∧ c ≠ ')') (h : Twin z s s')
    (hs : s.head? ≠ some c) : s'.head? ≠ some c := by
  obtain ⟨u, w, k, -, hk, rfl, rfl⟩ := h
  cases u with
  | cons d u => exact hs
  | nil => exact tail_apart hc hk

theorem twin_ne_nil (h : Twin z s s') : s' ≠ [] := by
  obtain ⟨u, w, k, -, hk, -, rfl⟩ := h
  obtain ⟨c, r, rfl, -⟩ := tail_head hk
  simp

/-- The pieces of the common beginning are the same in both texts. -/
theorem lexes_twin (hz : Apart z) (ht : Twin z s s') (h : Lexes s ts rest) :
    ∃ rest', Lexes s' ts rest' ∧ Twin z rest rest' := by
  induction h generalizing s' with
  | done => exact ⟨s', .done, ht⟩
  | @plain c s rest ts hc _ ih =>
    obtain ⟨u, w, k, hw, hk, hs, rfl⟩ := ht
    cases u with
    | cons d u =>
      obtain ⟨rfl, rfl⟩ := List.cons.inj hs
      obtain ⟨rest', hl, hr⟩ := ih (twin_tail hw hk u)
      exact ⟨rest', .plain hc hl, hr⟩
    | nil =>
      have hw' : Blanks s := fun d hd => hw d (by rw [← List.nil_append w, ← hs]; simp [hd])
      exact ih (twin_tail hw' hk [])
  | @mark m t s rest ts hm _ ih =>
    obtain ⟨r, rfl, hr⟩ := twin_behind (by simpa using hm.dense) ht
    obtain ⟨rest', hl, hrest⟩ := ih hr
    exact ⟨rest', .mark hm hl, hrest⟩
  | @bars s rest ts hne _ ih =>
    have hblank : isBlank '|' = false := by decide
    obtain ⟨r, rfl, hr⟩ := twin_behind (m := ['|', '|']) (by simpa using hblank) ht
    obtain ⟨rest', hl, hrest⟩ := ih hr
    exact ⟨rest', .bars (twin_ne_nil hr) hl, hrest⟩
  | @negation s rest ts heq _ ih =>
    have hblank : isBlank '!' = false := by decide
    obtain ⟨r, rfl, hr⟩ := twin_behind (m := ['!']) (by simpa using hblank) ht
    obtain ⟨rest', hl, hrest⟩ := ih hr
    exact ⟨rest', .negation (head_twin (by decide) hr heq) hl, hrest⟩
  | @string q s r content rest ts hq hs hne _ ih =>
    obtain ⟨hblank, -, hp⟩ := quote_not_blank hq
    obtain ⟨s'', rfl, hs'⟩ := twin_behind (m := [q]) (by simpa using hblank) ht
    obtain ⟨r', hstring, hr', -⟩ := string_twin hq hz hs' hs
    obtain ⟨rest', hl, hrest⟩ := ih hr'
    exact ⟨rest', .string hq hstring (head_twin ⟨unblank_space hblank, hp⟩ hr' hne) hl, hrest⟩

/-- What is read of a string is no longer than what stands in front of its closing quote, and
shorter where an escape stands there. -/
theorem content_closes {q : Char} {content : List Char}
    (h : quotedContent? q s = some (content, r)) :
    ∃ y, s = y ++ q :: r ∧ content.length ≤ y.length ∧
      (y.length ≤ content.length → q ∉ y ∧ '\\' ∉ y) := by
  fun_induction quotedContent? q s generalizing content with
  | case1 => cases h
  | case2 => cases h
  | case3 c s ih =>
    obtain ⟨⟨content', r'⟩, hc, heq⟩ := Option.map_eq_some_iff.mp h
    simp only [Prod.mk.injEq] at heq
    obtain ⟨rfl, rfl⟩ := heq
    obtain ⟨y, rfl, hle, -⟩ := ih hc
    refine ⟨'\\' :: c :: y, rfl, ?_, fun hge => ?_⟩
    · simp only [List.length_cons]
      omega
    · simp only [List.length_cons] at hge
      omega
  | case4 s =>
    simp only [Option.some.injEq, Prod.mk.injEq] at h
    obtain ⟨rfl, rfl⟩ := h
    exact ⟨[], rfl, Nat.le_refl 0, fun _ => ⟨List.not_mem_nil, List.not_mem_nil⟩⟩
  | case5 c s hend hescape hquote ih =>
    obtain ⟨⟨content', r'⟩, hc, heq⟩ := Option.map_eq_some_iff.mp h
    simp only [Prod.mk.injEq] at heq
    obtain ⟨rfl, rfl⟩ := heq
    obtain ⟨y, rfl, hle, hwhole⟩ := ih hc
    have hslash : '\\' ≠ c := by
      rintro rfl
      cases y <;> exact hescape _ _ rfl rfl
    refine ⟨c :: y, rfl, Nat.succ_le_succ hle, fun hge => ?_⟩
    obtain ⟨hq, hs⟩ := hwhole (Nat.le_of_succ_le_succ hge)
    exact ⟨List.not_mem_cons_of_ne_of_not_mem (Ne.symm hquote) hq,
      List.not_mem_cons_of_ne_of_not_mem hslash hs⟩

theorem string_closes {q : Char} {content : List Char} (h : string? q s = some (content, r)) :
    ∃ y, s = y ++ q :: r := by
  unfold string? at h
  split at h
  next found hfound =>
    obtain ⟨body, ha, hc⟩ := Option.bind_eq_some_iff.mp hfound
    cases h
    exact ⟨q :: q :: content ++ [q, q], by rw [of_after ha, of_cut hc]; simp⟩
  next =>
    obtain ⟨y, hy, -⟩ := content_closes h
    exact ⟨y, hy⟩

/-- A text in front of the last quote is read as itself only where it has neither this quote nor a
backslash in it. -/
theorem string_itself {q : Char} {t : List Char} (hq : q ∉ s)
    (h : string? q (t ++ q :: s) = some (t, r)) :
    q ∉ t ∧ '\\' ∉ t := by
  unfold string? at h
  split at h
  next found hfound =>
    obtain ⟨body, ha, hc⟩ := Option.bind_eq_some_iff.mp hfound
    cases h
    -- the three quotes behind the text would be too many
    have hsplit : t ++ q :: s = [q, q] ++ (t ++ [q, q, q] ++ r) := by rw [of_after ha, of_cut hc]
    have hcount := congrArg (List.count q) hsplit
    simp only [List.count_append, List.count_cons, List.count_nil, List.count_eq_zero.mpr hq,
      beq_self_eq_true, if_true] at hcount
    omega
  next =>
    obtain ⟨y, hy, hle, hwhole⟩ := content_closes h
    obtain rfl : y = t := by
      rcases List.append_eq_append_iff.mp hy with ⟨x, rfl, hx⟩ | ⟨x, rfl, -⟩
      · cases x with
        | nil => rw [List.append_nil]
        | cons c x =>
          obtain ⟨-, rfl⟩ := List.cons.inj hx
          simp at hq
      · have hx : x = [] := List.eq_nil_of_length_eq_zero (by rw [List.length_append] at hle; omega)
        rw [hx, List.append_nil]
    exact hwhole (Nat.le_refl _)

def BarsTaken (s : List Char) : Prop :=
  ∀ before name, s = before ++ '|' :: name → '|' ∉ name →
    name ≠ [] ∧ (before.getLast? = some '|' ∨ ∃ q ∈ name, IsQuote q)

theorem bars_behind {p : List Char} (hp : '|' ∉ p) (h : BarsTaken s) : BarsTaken (p ++ s) := by
  intro before name hs hname
  rcases List.append_eq_append_iff.mp hs with ⟨x, rfl, hx⟩ | ⟨x, rfl, hx⟩
  · obtain ⟨hne, hlast⟩ := h x name hx hname
    refine ⟨hne, hlast.imp_left fun hlast => ?_⟩
    rw [List.getLast?_append, hlast]
    rfl
  · cases x with
    | nil =>
      obtain ⟨hne, hlast⟩ := h [] name (by simpa using hx.symm) hname
      exact ⟨hne, hlast.imp_left nofun⟩
    | cons c x =>
      obtain ⟨rfl, -⟩ := List.cons.inj hx
      simp at hp

theorem bars_pair (hne : s ≠ []) (h : BarsTaken s) : BarsTaken ('|' :: '|' :: s) := by
  intro before name hs hname
  match before with
  | [] =>
    obtain ⟨-, rfl⟩ := List.cons.inj hs
    simp at hname
  | [c] =>
    obtain ⟨rfl, htail⟩ := List.cons.inj hs
    obtain ⟨-, rfl⟩ : '|' = '|' ∧ s = name := List.cons.inj htail
    exact ⟨hne, .inl rfl⟩
  | c :: d :: before =>
    obtain ⟨-, hs⟩ := List.cons.inj hs
    obtain ⟨-, hs⟩ := List.cons.inj hs
    obtain ⟨hne', hlast⟩ := h before name hs hname
    exact ⟨hne', hlast.imp_left fun hlast => by simp [List.getLast?_cons, hlast]⟩

theorem bars_string {q : Char} (hq : IsQuote q) (y : List Char) (h : BarsTaken r) :
    BarsTaken (q :: y ++ q :: r) := by
  have hquote : q ≠ '|' := by rcases hq with rfl | rfl <;> decide
  intro before name hsplit hname
  rcases List.append_eq_append_iff.mp hsplit with ⟨x, rfl, hx⟩ | ⟨x, -, hx⟩
  · cases x with
    | nil => exact absurd (List.cons.inj hx).1 hquote
    | cons c x =>
      obtain ⟨rfl, rfl⟩ := List.cons.inj hx
      obtain ⟨hne, hlast⟩ := h x name rfl hname
      refine ⟨hne, hlast.imp_left fun hlast => ?_⟩
      rw [List.getLast?_append, List.getLast?_cons, hlast]
      rfl
  · cases x with
    | nil => exact absurd (List.cons.inj hx).1.symm hquote
    | cons c x =>
      obtain ⟨rfl, rfl⟩ := List.cons.inj hx
      exact ⟨by simp, .inr ⟨q, by simp, hq⟩⟩

/-- In what is read whole no bar stands alone. -/
theorem lexes_bars (h : Lexes s ts []) : BarsTaken s := by
  generalize hend : [] = rest at h
  induction h with
  | done =>
    subst hend
    simp [BarsTaken]
  | @plain c s rest ts hc _ ih =>
    have hbar : '|' ∉ [c] := by
      intro hbar
      obtain rfl : '|' = c := by simpa using hbar
      exact hc (by decide)
    exact bars_behind hbar (ih hend)
  | mark hm _ ih => exact bars_behind (hm.lacks '|' (by simp)) (ih hend)
  | bars hne _ ih => exact bars_pair hne (ih hend)
  | negation _ _ ih => exact bars_behind (p := ['!']) (by decide) (ih hend)
  | string hq hs _ _ ih =>
    obtain ⟨y, rfl⟩ := string_closes hs
    exact bars_string hq y (ih hend)

end ActionDispatch.Script
