import Mathlib.Algebra.GroupWithZero.Nat
import ActionDispatch.Proofs.Script.Allowance
import ActionDispatch.Proofs.Script.Bytes

/-!
# Scans by position

The nesting of a script is measured in one pass over its bytes, with a position among them and with
counters. Here each read, each slice and each subtraction is checked: where a position is not among
the bytes, or more would be taken off than there is, a step has no outcome. At every position that
is reached the weight is that of the levels, so every step has an outcome, and the scan comes to the
nesting.
-/

set_option autoImplicit false

namespace ActionDispatch.Script

/-- The position of a scan, the operators counted at each level, the innermost first, their weight
with that of the brackets around them, and the greatest weight so far. -/
structure Scan where
  position : Nat
  levels : List Nat
  weight : Nat
  deepest : Nat
deriving DecidableEq, Repr

def Levels.Balanced (l : Levels) : Prop := l.weight = l.outer.length + (l.inner + l.outer.sum)

namespace Scan
open Text

def from? (s : List Char) (i : Nat) : Option (List Char) :=
  if i ≤ s.length then some (s.drop i) else none

def upTo? (s : List Char) (i : Nat) : Option (List Char) :=
  if i ≤ s.length then some (s.take i) else none

def minus? (m n : Nat) : Option Nat :=
  if n ≤ m then some (m - n) else none

def opensTriple? (quote : Char) (rest : List Char) : Option Bool :=
  if rest.length < 3 then return false
  else do
    let second ← rest[1]?
    if second = quote then
      let third ← rest[2]?
      return third = quote
    else return false

def closingQuote? (quote : Char) (rest : List Char) (j : Nat) : Option Nat :=
  if j < rest.length then do
    let c ← rest[j]?
    if c = quote then return j
    else if c = '\\' then closingQuote? quote rest (j + 2)
    else closingQuote? quote rest (j + 1)
  else return j
termination_by rest.length - j

def measuredString? (quote : Char) (rest : List Char) : Option (Option (Token × Nat)) := do
  if ← opensTriple? quote rest then
    let mark ← upTo? rest 3
    let body ← from? rest 3
    return (cut? mark body).map fun (content, _) => (.other, content.length + 6)
  else
    let j ← closingQuote? quote rest 1
    return some (.other, j + 1)

def measured? (rest : List Char) : Option (Option (Token × Nat)) := do
  let c ← rest[0]?
  if c = '"' ∨ c = '\'' then measuredString? c rest
  else if c = '(' ∨ c = '[' then return some (.opening, 1)
  else if c = ')' ∨ c = ']' then return some (.closing, 1)
  else if c = ',' then return some (.comma, 1)
  else if isPair c rest[1]? then return some (.operator, 2)
  else if c = '+' ∨ c = '.' ∨ c = '!' then return some (.operator, 1)
  else return some (.other, 1)

def counted? : Token → List Nat → Nat → Option (List Nat × Nat)
  | .opening, levels, weight => return (0 :: levels, weight + 1)
  | .closing, ops :: inner :: outer, weight => return (inner :: outer, ← minus? weight (ops + 1))
  | .comma, ops :: outer, weight => return (0 :: outer, ← minus? weight ops)
  | .operator, ops :: outer, weight => return ((ops + 1) :: outer, weight + 1)
  | .operator, [], weight => return ([], weight + 1)
  | _, levels, weight => return (levels, weight)

def start : Scan := ⟨0, [0], 0, 0⟩

def step? (s : List Char) (scan : Scan) : Option (Option Scan) := do
  let rest ← from? s scan.position
  match ← measured? rest with
  | none => return none
  | some (t, width) =>
    let (levels, weight) ← counted? t scan.levels scan.weight
    return some ⟨scan.position + width, levels, weight, max scan.deepest weight⟩

inductive Reached (s : List Char) : Scan → Prop
  | start : Reached s .start
  | step {scan next : Scan} : Reached s scan → scan.position < s.length →
      scan.step? s = some (some next) → Reached s next

variable {c q : Char} {s rest : List Char} {i j n : Nat} {l : Levels}

theorem from_within (h : i ≤ s.length) : from? s i = some (s.drop i) := if_pos h

theorem minus_within {m : Nat} (h : n ≤ m) : minus? m n = some (m - n) := if_pos h

theorem triple_opened (c : Char) (s : List Char) :
    opensTriple? c (c :: s) = some (after? [c, c] s).isSome := by
  match s with
  | [] => rfl
  | [d] => simp [opensTriple?, after?]
  | d :: e :: s =>
    have hlong : ¬s.length + 1 + 1 + 1 < 3 := by omega
    rcases eq_or_ne d c with rfl | hd
    · rcases eq_or_ne e d with rfl | he
      · simp [opensTriple?, after?, hlong]
      · simp [opensTriple?, after?, hlong, he, he.symm]
    · simp [opensTriple?, after?, hlong, hd, hd.symm]

theorem quote_escaped (q : Char) (s : List Char) :
    afterQuote q ('\\' :: s) = afterQuote q s.tail := by
  cases s <;> rfl

/-- The text behind the position of the closing quote is what stands behind the string. -/
theorem closingQuote_found (hq : q ≠ '\\') (hj : j ≤ rest.length + 1) :
    ∃ k, closingQuote? q rest j = some k ∧ j ≤ k ∧ k ≤ rest.length + 1 ∧
      afterQuote q (rest.drop j) = rest.drop (k + 1) := by
  fun_induction closingQuote? q rest j with
  | case1 j hlt hescaped hpassed =>
    have hread : rest[j]? = some rest[j] := List.getElem?_eq_getElem hlt
    rw [hread, List.drop_eq_getElem_cons hlt]
    generalize rest[j] = c
    change ∃ k, (if c = q then some j else if c = '\\' then _ else _) = some k ∧ _
    split
    next hc =>
      subst hc
      exact ⟨j, rfl, Nat.le_refl j, hj, quote_ends hq _⟩
    next hc =>
      split
      next hslash =>
        obtain ⟨k, hk, hle, hbound, hafter⟩ := hescaped (by omega)
        refine ⟨k, hk, by omega, hbound, ?_⟩
        rw [hslash, quote_escaped, List.tail_drop, hafter]
      next hslash =>
        obtain ⟨k, hk, hle, hbound, hafter⟩ := hpassed (by omega)
        refine ⟨k, hk, by omega, hbound, ?_⟩
        rw [quote_passed hc hslash, hafter]
  | case2 j hge =>
    refine ⟨j, rfl, Nat.le_refl j, hj, ?_⟩
    rw [List.drop_eq_nil_of_le (by omega), List.drop_eq_nil_of_le (by omega)]
    rfl

inductive Measures (s : List Char) : Option (Token × Nat) → Prop
  | stop : Token.next? s = none → Measures s none
  | next {t : Token} {width : Nat} : Token.next? s = some (t, s.drop width) → 0 < width →
      width ≤ s.length + 2 → Measures s (some (t, width))

theorem string_measured (hc : c = '"' ∨ c = '\'') (s : List Char) :
    ∃ found, measuredString? c (c :: s) = some found ∧ Measures (c :: s) found := by
  cases hafter : after? [c, c] s with
  | none =>
    have hslash : c ≠ '\\' := by rcases hc with rfl | rfl <;> decide
    have hinside : 1 ≤ (c :: s).length + 1 := by simp
    obtain ⟨k, hk, -, hbound, hrest⟩ := closingQuote_found hslash hinside
    have hnext : Token.next? (c :: s) = some (.other, (c :: s).drop (k + 1)) := by
      simp only [Token.next?, hc, hafter, if_true, ← hrest]
      rfl
    refine ⟨some (.other, k + 1), ?_, .next hnext (Nat.succ_pos k) (by omega)⟩
    simp only [measuredString?, triple_opened, hafter, hk]
    rfl
  | some body =>
    obtain rfl : s = c :: c :: body := of_after hafter
    have hmark : upTo? (c :: c :: c :: body) 3 = some [c, c, c] := if_pos (by simp)
    have hbody : from? (c :: c :: c :: body) 3 = some body := if_pos (by simp)
    have hmeasured : measuredString? c (c :: c :: c :: body) =
        some ((cut? [c, c, c] body).map fun (content, _) => (.other, content.length + 6)) := by
      simp only [measuredString?, triple_opened, hafter, hmark, hbody]
      rfl
    have hnext : Token.next? (c :: c :: c :: body) =
        (cut? [c, c, c] body).map fun (_, rest) => (.other, rest) := by
      simp only [Token.next?, hc, hafter, if_true]
    refine ⟨_, hmeasured, ?_⟩
    cases hcut : cut? [c, c, c] body with
    | none =>
      rw [hcut] at hnext
      exact .stop hnext
    | some found =>
      obtain ⟨content, rest⟩ := found
      rw [hcut] at hnext
      obtain rfl : body = content ++ [c, c, c] ++ rest := of_cut hcut
      have hdrop : (c :: c :: c :: (content ++ [c, c, c] ++ rest)).drop (content.length + 6) =
          rest := by
        simp
      exact .next (hdrop.symm ▸ hnext) (by omega) (by simp)

theorem measured_next (c : Char) (s : List Char) :
    ∃ found, measured? (c :: s) = some found ∧ Measures (c :: s) found := by
  have hone : ∀ t, Token.next? (c :: s) = some (t, s) → Measures (c :: s) (some (t, 1)) :=
    fun t h => .next h Nat.one_pos (by simp)
  have htwo : ∀ t, Token.next? (c :: s) = some (t, s.tail) → Measures (c :: s) (some (t, 2)) :=
    fun t h => .next (by rw [h, List.drop_succ_cons, List.drop_one]) Nat.two_pos (by simp)
  have hread : (c :: s)[0]? = some c := rfl
  have hsecond : (c :: s)[1]? = s.head? := by cases s <;> rfl
  rw [measured?, hread, hsecond, Option.bind_eq_bind, Option.bind_some]
  split
  next hquote => exact string_measured hquote s
  next hquote =>
    rw [Token.next?, if_neg hquote] at hone htwo
    split
    next hopen => exact ⟨_, rfl, hone _ (if_pos hopen)⟩
    next hopen =>
      rw [if_neg hopen] at hone htwo
      split
      next hclose => exact ⟨_, rfl, hone _ (if_pos hclose)⟩
      next hclose =>
        rw [if_neg hclose] at hone htwo
        split
        next hcomma => exact ⟨_, rfl, hone _ (if_pos hcomma)⟩
        next hcomma =>
          rw [if_neg hcomma] at hone htwo
          split
          next hpair => exact ⟨_, rfl, htwo _ (if_pos hpair)⟩
          next hpair =>
            rw [if_neg hpair] at hone
            split
            next hsign => exact ⟨_, rfl, hone _ (if_pos hsign)⟩
            next hsign => exact ⟨_, rfl, hone _ (if_neg hsign)⟩

theorem balanced_count (h : l.Balanced) (t : Token) : (l.count t).Balanced := by
  obtain ⟨inner, outer, weight, deepest⟩ := l
  simp only [Levels.Balanced] at h
  cases t with
  | opening => simp only [Levels.count, Levels.Balanced, List.length_cons, List.sum_cons]; omega
  | closing =>
    cases outer with
    | nil => exact h
    | cons ops outer =>
      simp only [List.length_cons, List.sum_cons] at h
      simp only [Levels.count, Levels.Balanced]
      omega
  | comma => simp only [Levels.count, Levels.Balanced]; omega
  | operator => simp only [Levels.count, Levels.Balanced]; omega
  | other => exact h

theorem balanced_step (h : l.Balanced) (t : Token) : (l.step t).Balanced := balanced_count h t

/-- Balanced levels are counted without a difference below zero. -/
theorem balanced_counted (h : l.Balanced) (t : Token) :
    counted? t (l.inner :: l.outer) l.weight =
      some ((l.count t).inner :: (l.count t).outer, (l.count t).weight) := by
  obtain ⟨inner, outer, weight, deepest⟩ := l
  simp only [Levels.Balanced] at h
  cases t with
  | opening | operator | other => rfl
  | closing =>
    cases outer with
    | nil => rfl
    | cons ops outer =>
      have hle : inner + 1 ≤ weight := by
        simp only [List.length_cons, List.sum_cons] at h
        omega
      simp [counted?, minus_within hle, Levels.count]
  | comma =>
    have hle : inner ≤ weight := by omega
    simp [counted?, minus_within hle, Levels.count]

def ofLevels (i : Nat) (l : Levels) : Scan := ⟨i, l.inner :: l.outer, l.weight, l.deepest⟩

theorem measured_within (hi : i < s.length) :
    ∃ found, measured? (s.drop i) = some found ∧ Measures (s.drop i) found := by
  rw [List.drop_eq_getElem_cons hi]
  exact measured_next s[i] (s.drop (i + 1))

/-- A scan with balanced levels takes a step at each position of the text: to the position behind
its first token, where there is one. -/
theorem step_balanced (hi : i < s.length) (h : l.Balanced) :
    (ofLevels i l).step? s = some none ∧ Token.next? (s.drop i) = none ∨
      ∃ t width, (ofLevels i l).step? s = some (some (ofLevels (i + width) (l.step t))) ∧
        Token.next? (s.drop i) = some (t, s.drop (i + width)) ∧ i + width ≤ s.length + 2 := by
  have hrest : from? s i = some (s.drop i) := from_within (Nat.le_of_lt hi)
  have hlength : (s.drop i).length = s.length - i := List.length_drop
  obtain ⟨found, hfound, hmeasures⟩ := measured_within hi
  simp only [step?, ofLevels, hrest, hfound, Option.bind_eq_bind, Option.bind_some]
  cases hmeasures with
  | stop hnext => exact .inl ⟨rfl, hnext⟩
  | @next t width hnext hpos hwidth =>
    rw [List.drop_drop] at hnext
    refine .inr ⟨t, width, ?_, hnext, by omega⟩
    simp only [balanced_counted h, Option.bind_some, Levels.step, count_deepest]
    rfl

theorem step_advances {scan next : Scan} (hi : scan.position < s.length)
    (h : scan.step? s = some (some next)) : scan.position < next.position := by
  have hrest : from? s scan.position = some (s.drop scan.position) := from_within (Nat.le_of_lt hi)
  obtain ⟨found, hfound, hmeasures⟩ := measured_within hi
  simp only [step?, hrest, hfound, Option.bind_eq_bind, Option.bind_some] at h
  cases hmeasures with
  | stop hnext => cases h
  | next hnext hpos hwidth =>
    obtain ⟨counts, -, hscan⟩ := Option.bind_eq_some_iff.mp h
    cases hscan
    exact Nat.lt_add_of_pos_right hpos

def run? (s : List Char) (scan : Scan) : Option Nat :=
  if _hi : scan.position < s.length then
    match _h : scan.step? s with
    | none => none
    | some none => some scan.deepest
    | some (some next) => run? s next
  else some scan.deepest
termination_by s.length - scan.position
decreasing_by
  have hadvance := step_advances _hi _h
  omega

theorem run_ends {scan : Scan} (hi : ¬scan.position < s.length) :
    run? s scan = some scan.deepest := by
  rw [run?, dif_neg hi]

theorem run_stops {scan : Scan} (hi : scan.position < s.length) (h : scan.step? s = some none) :
    run? s scan = some scan.deepest := by
  rw [run?, dif_pos hi]
  split <;> simp_all

theorem run_goes {scan next : Scan} (hi : scan.position < s.length)
    (h : scan.step? s = some (some next)) : run? s scan = run? s next := by
  rw [run?, dif_pos hi]
  split <;> simp_all

/-- A scan with balanced levels comes to what the tokens from its position on count. -/
theorem run_balanced (s : List Char) (i : Nat) (l : Levels) (h : l.Balanced) :
    run? s (ofLevels i l) = some ((tokens (s.drop i)).foldl Levels.step l).deepest := by
  induction hn : s.length - i using Nat.strong_induction_on generalizing i l with
  | _ n ih =>
    subst hn
    by_cases hi : i < s.length
    · rcases step_balanced hi h with ⟨hstep, hnext⟩ | ⟨t, width, hstep, hnext, -⟩
      · rw [run_stops hi hstep, tokens_end hnext]
        rfl
      · have hadvance : i < i + width := step_advances hi hstep
        rw [run_goes hi hstep, tokens_cons hnext, List.foldl_cons]
        exact ih _ (by omega) _ _ (balanced_step h t) rfl
    · have hend : s.drop i = [] := List.drop_eq_nil_of_le (Nat.le_of_not_lt hi)
      rw [run_ends hi, hend, tokens_nil]
      rfl

theorem run_nesting (s : List Char) : run? s .start = some (nesting s) :=
  run_balanced s 0 .start rfl

structure Sound (scan : Scan) : Prop where
  leveled : scan.levels ≠ []
  weighed : scan.weight = scan.levels.length - 1 + scan.levels.sum
  comma : ∀ ops outer, scan.levels = ops :: outer → ops ≤ scan.weight
  closing : ∀ ops outer, scan.levels = ops :: outer → outer ≠ [] → ops + 1 ≤ scan.weight

theorem balanced_sound (i : Nat) (h : l.Balanced) : (ofLevels i l).Sound := by
  simp only [Levels.Balanced] at h
  refine ⟨by simp [ofLevels], ?_, ?_, ?_⟩
  · simp only [ofLevels, List.length_cons, List.sum_cons]
    omega
  · rintro ops outer heq
    obtain ⟨rfl, rfl⟩ := List.cons.inj heq
    simp only [ofLevels]
    omega
  · rintro ops outer heq hne
    obtain ⟨rfl, rfl⟩ := List.cons.inj heq
    have hlength := List.length_pos_iff.mpr hne
    simp only [ofLevels]
    omega

theorem reached_balanced {scan : Scan} (h : Reached s scan) :
    ∃ i l, scan = ofLevels i l ∧ l.Balanced ∧ i ≤ s.length + 2 := by
  induction h with
  | start => exact ⟨0, .start, rfl, rfl, Nat.zero_le _⟩
  | step hreached hi hstep ih =>
    obtain ⟨i, l, rfl, hbalanced, -⟩ := ih
    rcases step_balanced hi hbalanced with ⟨hstop, -⟩ | ⟨t, width, hgo, -, hbound⟩
    · cases hstop.symm.trans hstep
    · cases hgo.symm.trans hstep
      exact ⟨i + width, l.step t, rfl, balanced_step hbalanced t, hbound⟩

/-- Whatever bytes are scanned, at every place that the scan comes to there is a level and the
weight is that of the levels, and from a place among the bytes the scan either stops or goes on to a
place behind it, with no read outside of the bytes and no difference below zero. So it comes to its
end, with a weight no greater than the number of bytes; for the bytes of a text this is the nesting
of the text. -/
theorem scan_never_fails (bytes : List UInt8) :
    (∀ scan, Reached (units bytes) scan → scan.Sound ∧ scan.position ≤ bytes.length + 2 ∧
      (scan.position < bytes.length → ∃ outcome, scan.step? (units bytes) = some outcome ∧
        ∀ next ∈ outcome, scan.position < next.position)) ∧
      (∃ deepest, run? (units bytes) .start = some deepest ∧ deepest ≤ bytes.length) ∧
      ∀ text : String, text.toUTF8.data.toList = bytes →
        run? (units bytes) .start = some (nesting text.toList) := by
  have hlength : (units bytes).length = bytes.length := List.length_map _
  refine ⟨fun scan hreached => ?_, ⟨nesting (units bytes), run_nesting _, ?_⟩, ?_⟩
  · obtain ⟨i, l, rfl, hbalanced, hbound⟩ := reached_balanced hreached
    refine ⟨balanced_sound i hbalanced, hlength ▸ hbound, fun hi => ?_⟩
    rw [← hlength] at hi
    rcases step_balanced hi hbalanced with ⟨hstop, -⟩ | ⟨t, width, hgo, -⟩
    · exact ⟨none, hstop, nofun⟩
    · refine ⟨_, hgo, fun next hnext => ?_⟩
      cases hnext
      exact step_advances hi hgo
  · exact hlength ▸ nesting_le_length (units bytes)
  · rintro text rfl
    rw [utf8_units, run_nesting, nesting_spread]

theorem scan_never_fails_unclosed :
    run? (units "f(é + '\\".toUTF8.data.toList) .start = some 2 := by
  have hnesting : nesting "f(é + '\\".toList = 2 := by decide +kernel
  obtain ⟨-, -, htext⟩ := scan_never_fails "f(é + '\\".toUTF8.data.toList
  rw [htext _ rfl, hnesting]

end Scan

end ActionDispatch.Script
