import ActionDispatch.Proofs.Script.Operands

/-!
# Tokens that count

The scanner that measures the nesting of a script passes names, digits and white space without a
count. A mark of the grammar is one token, and so is a string that is read whole. The measure
depends on the tokens that count alone.
-/

set_option autoImplicit false

namespace ActionDispatch.Script
open Text

theorem tokens_cons {t : Token} {s rest : List Char} (h : Token.next? s = some (t, rest)) :
    tokens s = t :: tokens rest := by
  rw [tokens]
  split <;> simp_all

theorem tokens_end {s : List Char} (h : Token.next? s = none) : tokens s = [] := by
  rw [tokens]
  split <;> simp_all

theorem tokens_nil : tokens [] = [] := tokens_end rfl

def marks (s : List Char) : List Token := (tokens s).filter (· ≠ .other)

theorem marks_nil : marks [] = [] := by rw [marks, tokens_nil, List.filter_nil]

theorem marks_counted {t : Token} {s rest : List Char} (ht : t ≠ .other)
    (h : Token.next? s = some (t, rest)) : marks s = t :: marks rest := by
  simp [marks, tokens_cons h, ht]

theorem marks_passed {s rest : List Char} (h : Token.next? s = some (.other, rest)) :
    marks s = marks rest := by
  simp [marks, tokens_cons h]

theorem step_other {l : Levels} (hl : l.weight ≤ l.deepest) : l.step .other = l := by
  simp [Levels.step, Levels.count, hl]

theorem step_reached (l : Levels) (t : Token) : (l.step t).weight ≤ (l.step t).deepest :=
  Nat.le_max_right ..

theorem steps_counted (ts : List Token) {l : Levels} (hl : l.weight ≤ l.deepest) :
    (ts.filter (· ≠ .other)).foldl Levels.step l = ts.foldl Levels.step l := by
  induction ts generalizing l with
  | nil => rfl
  | cons t ts ih =>
    have hstep := ih (step_reached l t)
    by_cases ht : t = .other
    · subst ht
      simpa [step_other hl] using ih hl
    · simpa [ht] using hstep

theorem nesting_marks (s : List Char) :
    nesting s = ((marks s).foldl Levels.step Levels.start).deepest := by
  rw [nesting, marks, steps_counted _ (by decide)]

def scanned : List Char :=
  ['"', '\'', '(', '[', ')', ']', ',', '=', '!', '&', '|', '?', '+', '.']

theorem unscanned_passed {c : Char} (hc : c ∉ scanned) (s : List Char) :
    marks (c :: s) = marks s := by
  have hpair : isPair c s.head? = false := by
    unfold isPair
    split <;> simp_all [scanned]
  exact marks_passed (by simp_all [Token.next?, scanned])

theorem content_end {q : Char} {s content rest : List Char}
    (h : quotedContent? q s = some (content, rest)) : afterQuote q s = rest := by
  fun_induction quotedContent? q s generalizing content <;> simp_all [afterQuote]
  all_goals grind

/-- A string that is read is passed, except where its opening triple quote is not closed: there the
empty string is read in front of a quote. -/
theorem string_passed {q : Char} {s content rest : List Char} (hq : q = '"' ∨ q = '\'')
    (h : string? q s = some (content, rest)) :
    marks (q :: s) = marks rest ∨ rest.head? = some q := by
  unfold string? at h
  cases ha : after? [q, q] s with
  | none =>
    simp only [ha, Option.bind_none] at h
    refine .inl (marks_passed ?_)
    simp [Token.next?, hq, ha, content_end h]
  | some body =>
    cases hc : cut? [q, q, q] body with
    | some found =>
      simp only [ha, Option.bind_some, hc, Option.some.injEq] at h
      refine .inl (marks_passed ?_)
      simp [Token.next?, hq, ha, hc, h]
    | none =>
      simp only [ha, Option.bind_some, hc] at h
      have hs : s = q :: q :: body := of_after ha
      have hne : q ≠ '\\' := by rcases hq with rfl | rfl <;> decide
      rw [hs, content_step hne] at h
      simp only [if_true, Option.some.injEq, Prod.mk.injEq] at h
      exact .inr (by rw [← h.2, List.head?_cons])

end ActionDispatch.Script
