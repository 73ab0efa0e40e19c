import ActionDispatch.Text.Trim

/-!
# Nesting of scripts

A measure of a script text that bounds the depth of its tree, taken before the text is parsed: the
brackets open at a place, and the operators chained so far at each level around it. Strings do not
count.
-/

set_option autoImplicit false

namespace ActionDispatch.Script

open Text

def maxNesting : Nat := 64

inductive Token where
  | opening
  | closing
  | comma
  | operator
  | other
deriving DecidableEq, Repr

def afterQuote (quote : Char) : List Char → List Char
  | [] => []
  | ['\\'] => []
  | '\\' :: _ :: rest => afterQuote quote rest
  | c :: rest => if c = quote then rest else afterQuote quote rest

def isPair (c : Char) (next : Option Char) : Bool :=
  match c, next with
  | '=', some '=' | '!', some '=' | '&', some '&' => true
  | '|', some '|' | '?', some ':' | '?', some '.' => true
  | _, _ => false

/-- The first token of a text and the text behind it. A string between triple quotes that is not
closed has no end. -/
def Token.next? : List Char → Option (Token × List Char)
  | [] => none
  | c :: rest =>
    if c = '"' ∨ c = '\'' then
      match after? [c, c] rest with
      | some body => (cut? [c, c, c] body).map fun (_, rest) => (.other, rest)
      | none => some (.other, afterQuote c rest)
    else if c = '(' ∨ c = '[' then some (.opening, rest)
    else if c = ')' ∨ c = ']' then some (.closing, rest)
    else if c = ',' then some (.comma, rest)
    else if isPair c rest.head? then some (.operator, rest.tail)
    else if c = '+' ∨ c = '.' ∨ c = '!' then some (.operator, rest)
    else some (.other, rest)

theorem length_afterQuote_le (quote : Char) (s : List Char) :
    (afterQuote quote s).length ≤ s.length := by
  fun_induction afterQuote quote s <;> simp_all <;> omega

theorem length_of_after? {start s rest : List Char} (h : after? start s = some rest) :
    rest.length ≤ s.length := by
  fun_induction after? start s with
  | case1 s => simp_all
  | case2 => simp at h
  | case3 p start s ih => simpa using Nat.le_succ_of_le (ih h)
  | case4 => simp at h

theorem length_of_cut? {mark s before rest : List Char} (h : cut? mark s = some (before, rest)) :
    rest.length ≤ s.length := by
  induction s generalizing before with
  | nil =>
    simp only [cut?, Option.map_eq_some_iff, Prod.mk.injEq] at h
    obtain ⟨r, hr, -, rfl⟩ := h
    exact length_of_after? hr
  | cons c s ih =>
    rw [cut?] at h
    split at h
    · next hr =>
      obtain ⟨-, rfl⟩ : [] = before ∧ _ = rest := by simpa using h
      exact length_of_after? hr
    · simp only [Option.map_eq_some_iff, Prod.mk.injEq, Prod.exists] at h
      obtain ⟨b, r, hr, -, rfl⟩ := h
      exact Nat.le_succ_of_le (ih hr)

theorem Token.next?_shorter {s rest : List Char} {t : Token} (h : next? s = some (t, rest)) :
    rest.length < s.length := by
  cases s with
  | nil => simp [next?] at h
  | cons c s =>
    rw [next?] at h
    have tail_le : s.tail.length ≤ s.length := by simp
    split at h
    · split at h
      · next body hb =>
        simp only [Option.map_eq_some_iff, Prod.mk.injEq, Prod.exists] at h
        obtain ⟨b, r, hr, -, rfl⟩ := h
        have h1 := length_of_cut? hr
        have h2 := length_of_after? hb
        simp only [List.length_cons]
        omega
      · simp only [Option.some.injEq, Prod.mk.injEq] at h
        obtain ⟨-, rfl⟩ := h
        have := length_afterQuote_le c s
        simp only [List.length_cons]
        omega
    · split at h
      · simp_all
      · split at h
        · simp_all
        · split at h
          · simp_all
          · split at h
            · simp only [Option.some.injEq, Prod.mk.injEq] at h
              obtain ⟨-, rfl⟩ := h
              simp only [List.length_cons]
              omega
            · split at h <;> simp_all

def tokens (s : List Char) : List Token :=
  match _h : Token.next? s with
  | none => []
  | some (t, rest) => t :: tokens rest
termination_by s.length
decreasing_by exact Token.next?_shorter _h

structure Levels where
  inner : Nat
  outer : List Nat
  weight : Nat
  deepest : Nat
deriving DecidableEq, Repr

namespace Levels

def start : Levels := ⟨0, [], 0, 0⟩

/-- A closing bracket ends the innermost level, unless it is the outermost; a comma ends the
operators of its level. -/
def count (l : Levels) : Token → Levels
  | .opening => { l with inner := 0, outer := l.inner :: l.outer, weight := l.weight + 1 }
  | .closing =>
    match l.outer with
    | [] => l
    | inner :: outer =>
      { l with inner := inner, outer := outer, weight := l.weight - (l.inner + 1) }
  | .comma => { l with inner := 0, weight := l.weight - l.inner }
  | .operator => { l with inner := l.inner + 1, weight := l.weight + 1 }
  | .other => l

def step (l : Levels) (t : Token) : Levels :=
  let l := l.count t
  { l with deepest := max l.deepest l.weight }

end Levels

def nesting (s : List Char) : Nat :=
  ((tokens s).foldl Levels.step Levels.start).deepest

end ActionDispatch.Script
