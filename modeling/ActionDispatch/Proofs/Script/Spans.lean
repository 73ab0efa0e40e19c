import ActionDispatch.Proofs.Script.Tokens

/-!
# Heights that tokens allow

Which tokens a tree of a certain height is written with, and how its height compares with the weight
that the scanner measures on the way through them. A closing bracket takes the weight of what it
closes away, so that a chain that goes on behind the bracket is measured from below again: the
height may exceed the measure by one time the measure for each such bracket.
-/

set_option autoImplicit false

namespace ActionDispatch.Script

def Token.raises : Token → Bool
  | .opening => true
  | .operator => true
  | .closing => false
  | .comma => false
  | .other => false

def resumptions : List Token → Nat
  | [] => 0
  | t :: ts => (t = .closing && ts.head?.any Token.raises).toNat + resumptions ts

theorem resumptions_pair (t u : Token) (ts : List Token) :
    resumptions (t :: u :: ts) = (t = .closing && u.raises).toNat + resumptions (u :: ts) := rfl

def Closes (ts : List Token) : Prop := ts.getLast? = some .closing

theorem closes_append (ts us : List Token) (t : Token) :
    Closes (ts ++ t :: us) ↔ Closes (t :: us) := by
  simp [Closes, List.getLast?_append, List.getLast?_cons]

theorem closes_cons {t : Token} {ts : List Token} (h : Closes ts) : Closes (t :: ts) := by
  simp_all [Closes, List.getLast?_cons]

theorem resumptions_append (ts us : List Token) :
    resumptions ts + resumptions us ≤ resumptions (ts ++ us) := by
  induction ts with
  | nil => simp [resumptions]
  | cons t ts ih =>
    cases ts with
    | nil =>
      simp only [resumptions, List.cons_append, List.nil_append]
      simp
    | cons u ts =>
      simp only [List.cons_append, resumptions_pair] at ih ⊢
      omega

theorem resumptions_closes {ts us : List Token} {t : Token} (hc : Closes ts)
    (ht : t.raises = true) :
    resumptions ts + 1 + resumptions (t :: us) ≤ resumptions (ts ++ t :: us) := by
  induction ts with
  | nil => simp [Closes] at hc
  | cons t' ts ih =>
    cases ts with
    | nil =>
      obtain rfl : t' = .closing := by simpa [Closes] using hc
      rw [List.singleton_append, resumptions_pair]
      simp [ht, resumptions]
    | cons u ts =>
      have hrest := ih (by simpa [Closes] using hc)
      simp only [List.cons_append, resumptions_pair] at hrest ⊢
      omega

inductive Spans : (listed : Bool) → List Token → Nat → Prop where
  | plain : Spans false [] 0
  | lower {listed : Bool} {ts : List Token} {m n : Nat} : m ≤ n → Spans listed ts n →
      Spans listed ts m
  | operator {ts us : List Token} {m n : Nat} : Spans false ts m → Spans false us n →
      Spans false (ts ++ .operator :: us) (max m n + 1)
  | bracket {ts us : List Token} {m n : Nat} : Spans false ts m → Spans true us n →
      Spans false (ts ++ .opening :: us ++ [.closing]) (max m n + 1)
  | item {ts : List Token} {n : Nat} : Spans false ts n → Spans true ts n
  | comma {ts us : List Token} {m n : Nat} : Spans true ts m → Spans false us n →
      Spans true (ts ++ .comma :: us) (max m n)

/-- What the scanner does on its way through the tokens of a tree or of a list. Where no bracket
closes at the end, the operators since the last one are still in the count of the level. -/
structure Scanned (listed : Bool) (ts : List Token) (height : Nat) (l l' : Levels) : Prop where
  outer : l'.outer = l.outer
  weight : l'.weight + l.inner = l.weight + l'.inner
  inner : l.inner ≤ l'.inner
  deepest : l.deepest ≤ l'.deepest
  reached : l'.weight ≤ l'.deepest
  bounded : ∀ m, l'.deepest ≤ l.weight + m → height ≤ (resumptions ts + 1) * m
  chained : listed = false → ¬Closes ts → ∀ m, l'.deepest ≤ l.weight + m →
    height + l.inner ≤ resumptions ts * m + l'.inner

variable {ts us : List Token} {m n : Nat} {l l₁ l₂ : Levels}

theorem scanned_plain (hl : l.weight ≤ l.deepest) : Scanned false [] 0 l l where
  outer := rfl
  weight := rfl
  inner := Nat.le_refl _
  deepest := Nat.le_refl _
  reached := hl
  bounded _ _ := Nat.zero_le _
  chained _ _ _ _ := by omega

theorem scanned_lower {listed : Bool} (hmn : m ≤ n) (h : Scanned listed ts n l l₁) :
    Scanned listed ts m l l₁ where
  outer := h.outer
  weight := h.weight
  inner := h.inner
  deepest := h.deepest
  reached := h.reached
  bounded k hk := Nat.le_trans hmn (h.bounded k hk)
  chained hf hc k hk := Nat.le_trans (Nat.add_le_add_right hmn _) (h.chained hf hc k hk)

theorem scanned_item (h : Scanned false ts n l l₁) : Scanned true ts n l l₁ :=
  ⟨h.outer, h.weight, h.inner, h.deepest, h.reached, h.bounded, by simp⟩

/-- Where a chain goes on with a token that raises the weight, its height is covered by what is
counted at the level, or else a bracket is closed and the chain resumed. -/
theorem scanned_grows {t : Token} (ht : t.raises = true) (h : Scanned false ts m l l₁) {k : Nat}
    (hk : l₁.deepest ≤ l.weight + k) :
    m + l.inner ≤ resumptions (ts ++ t :: us) * k + l₁.inner := by
  by_cases hc : Closes ts
  · have hb := h.bounded k hk
    have hr : resumptions ts + 1 + resumptions (t :: us) ≤ resumptions (ts ++ t :: us) :=
      resumptions_closes hc ht
    have hi := h.inner
    have hmul :=
      Nat.mul_le_mul_right k (show resumptions ts + 1 ≤ resumptions (ts ++ t :: us) by omega)
    omega
  · have hb := h.chained rfl hc k hk
    have hr := resumptions_append ts (t :: us)
    have hmul := Nat.mul_le_mul_right k (show resumptions ts ≤ resumptions (ts ++ t :: us) by omega)
    omega

theorem product_grows {a b j k : Nat} (hab : a ≤ b) (hjk : j < k) :
    (a + 1) * j + 1 ≤ (b + 1) * k := by
  calc (a + 1) * j + 1 ≤ (a + 1) * j + (a + 1) := by omega
    _ = (a + 1) * (j + 1) := rfl
    _ ≤ (b + 1) * k := Nat.mul_le_mul (by omega) (by omega)

theorem scanned_operator (h₁ : Scanned false ts m l l₁)
    (h₂ : Scanned false us n (l₁.step .operator) l₂) :
    Scanned false (ts ++ .operator :: us) (max m n + 1) l l₂ := by
  obtain ⟨ho, hw, hi, hd, hr, hb, hc⟩ := h₂
  simp only [Levels.step, Levels.count] at ho hw hi hd hb hc
  have hw₁ := h₁.weight
  have hi₁ := h₁.inner
  have hd₁ := h₁.deepest
  have hus : resumptions us ≤ resumptions (ts ++ .operator :: us) := by
    have := resumptions_append ts (.operator :: us)
    simp only [resumptions] at this
    omega
  have hleft : ∀ k, l₂.deepest ≤ l.weight + k →
      m + l.inner ≤ resumptions (ts ++ .operator :: us) * k + l₁.inner :=
    fun k hk => scanned_grows rfl h₁ (by omega)
  refine ⟨ho.trans h₁.outer, by omega, by omega, by omega, hr, ?_, ?_⟩
  · intro k hk
    have hm := hleft k hk
    have hn := hb (k - (l₁.inner - l.inner) - 1) (by omega)
    have hmul := product_grows (j := k - (l₁.inner - l.inner) - 1) (k := k) hus (by omega)
    have hsplit := Nat.add_one_mul (resumptions (ts ++ .operator :: us)) k
    omega
  · intro _ hclose k hk
    have hm := hleft k hk
    have hopen : ¬Closes us := fun hc => hclose ((closes_append ts us _).mpr (closes_cons hc))
    have hn := hc trivial hopen k (by omega)
    have hmul := Nat.mul_le_mul_right k hus
    omega

theorem scanned_bracket (h₁ : Scanned false ts m l l₁)
    (h₂ : Scanned true us n (l₁.step .opening) l₂) :
    Scanned false (ts ++ .opening :: us ++ [.closing]) (max m n + 1) l (l₂.step .closing) := by
  obtain ⟨ho, hw, -, hd, hr, hb, -⟩ := h₂
  simp only [Levels.step, Levels.count] at ho hw hd hb
  have hw₁ := h₁.weight
  have hi₁ := h₁.inner
  have hd₁ := h₁.deepest
  have hreached := h₁.reached
  have hclosed : l₂.step .closing = ⟨l₁.inner, l₁.outer, l₁.weight, l₂.deepest⟩ := by
    have hweight : l₂.weight - (l₂.inner + 1) = l₁.weight := by omega
    have hdeep : max l₂.deepest l₁.weight = l₂.deepest := by omega
    simp [Levels.step, Levels.count, ho, hweight, hdeep]
  have hus : resumptions us ≤ resumptions (ts ++ .opening :: us ++ [.closing]) := by
    have hinner := resumptions_append ts (.opening :: us)
    have houter := resumptions_append (ts ++ .opening :: us) [.closing]
    simp only [resumptions] at hinner houter
    omega
  have hbounded : ∀ k, l₂.deepest ≤ l.weight + k →
      max m n + 1 ≤ (resumptions (ts ++ .opening :: us ++ [.closing]) + 1) * k := by
    intro k hk
    have hm : m + l.inner ≤ resumptions (ts ++ .opening :: us ++ [.closing]) * k + l₁.inner := by
      rw [List.append_assoc]
      exact scanned_grows rfl h₁ (by omega)
    have hn := hb (k - (l₁.inner - l.inner) - 1) (by omega)
    have hmul := product_grows (j := k - (l₁.inner - l.inner) - 1) (k := k) hus (by omega)
    have hsplit := Nat.add_one_mul (resumptions (ts ++ .opening :: us ++ [.closing])) k
    omega
  have hcloses : Closes (ts ++ .opening :: us ++ [.closing]) := List.getLast?_concat ..
  have hbelow : l₁.deepest ≤ l₂.deepest := by omega
  rw [hclosed]
  exact ⟨h₁.outer, hw₁, hi₁, Nat.le_trans hd₁ hbelow, Nat.le_trans hreached hbelow, hbounded,
    fun _ hopen => absurd hcloses hopen⟩

theorem scanned_comma (hl : l.inner = 0) (h₁ : Scanned true ts m l l₁)
    (h₂ : Scanned false us n (l₁.step .comma) l₂) :
    Scanned true (ts ++ .comma :: us) (max m n) l l₂ := by
  obtain ⟨ho, hw, hi, hd, hr, hb, -⟩ := h₂
  simp only [Levels.step, Levels.count] at ho hw hi hd hb
  have hw₁ := h₁.weight
  have hd₁ := h₁.deepest
  have hts := resumptions_append ts (.comma :: us)
  simp only [resumptions] at hts
  refine ⟨ho.trans h₁.outer, by omega, by omega, by omega, hr, ?_, by simp⟩
  intro k hk
  have hm := h₁.bounded k (by omega)
  have hn := hb k (by omega)
  have hleft := Nat.mul_le_mul_right k
    (show resumptions ts + 1 ≤ resumptions (ts ++ .comma :: us) + 1 by omega)
  have hright := Nat.mul_le_mul_right k
    (show resumptions us + 1 ≤ resumptions (ts ++ .comma :: us) + 1 by omega)
  omega

/-- The scanner comes back to its level with the count of the operators that are still open, and has
measured the height up to the brackets behind which a chain is resumed. -/
theorem spans_scanned {listed : Bool} (hs : Spans listed ts n) (hl : l.weight ≤ l.deepest)
    (hi : listed = true → l.inner = 0) : Scanned listed ts n l (ts.foldl Levels.step l) := by
  induction hs generalizing l with
  | plain => exact scanned_plain hl
  | lower hmn _ ih => exact scanned_lower hmn (ih hl hi)
  | operator _ _ ih₁ ih₂ =>
    rw [List.foldl_append, List.foldl_cons]
    exact scanned_operator (ih₁ hl nofun) (ih₂ (step_reached _ _) nofun)
  | bracket _ _ ih₁ ih₂ =>
    rw [List.foldl_append, List.foldl_append, List.foldl_cons]
    exact scanned_bracket (ih₁ hl nofun) (ih₂ (step_reached _ _) fun _ => rfl)
  | item _ ih => exact scanned_item (ih hl nofun)
  | comma _ _ ih₁ ih₂ =>
    rw [List.foldl_append, List.foldl_cons]
    exact scanned_comma (hi rfl) (ih₁ hl hi) (ih₂ (step_reached _ _) nofun)

/-- The height of a text that spans a tree, against its nesting. -/
theorem spans_nesting {s : List Char} (hs : Spans false (marks s) n) :
    n ≤ (resumptions (marks s) + 1) * nesting s := by
  have h := spans_scanned (l := Levels.start) hs (Nat.le_refl _) nofun
  rw [nesting_marks]
  exact h.bounded _ (Nat.le_add_left ..)

/-- On the tokens of a tree the scanner does the same at every level: it leaves operators in the
count of the level and gains a weight above that of the level. -/
theorem spans_gain {listed : Bool} (hs : Spans listed ts n) :
    ∃ operators gain, ∀ l : Levels, l.weight ≤ l.deepest → (listed = true → l.inner = 0) →
      ts.foldl Levels.step l = ⟨l.inner + operators, l.outer, l.weight + operators,
        max l.deepest (l.weight + gain)⟩ := by
  induction hs with
  | plain =>
    refine ⟨0, 0, fun l hl _ => ?_⟩
    simp [Nat.max_eq_left hl]
  | lower _ _ ih => exact ih
  | operator _ _ ih₁ ih₂ =>
    obtain ⟨i₁, g₁, h₁⟩ := ih₁
    obtain ⟨i₂, g₂, h₂⟩ := ih₂
    refine ⟨i₁ + 1 + i₂, max g₁ (i₁ + 1 + g₂), fun l hl _ => ?_⟩
    rw [List.foldl_append, List.foldl_cons, h₁ l hl nofun, h₂ _ (step_reached _ _) nofun]
    simp only [Levels.step, Levels.count, Levels.mk.injEq, true_and]
    omega
  | bracket _ _ ih₁ ih₂ =>
    obtain ⟨i₁, g₁, h₁⟩ := ih₁
    obtain ⟨i₂, g₂, h₂⟩ := ih₂
    refine ⟨i₁, max g₁ (i₁ + 1 + g₂), fun l hl _ => ?_⟩
    rw [List.foldl_append, List.foldl_append, h₁ l hl nofun, List.foldl_cons, List.foldl_nil,
      List.foldl_cons, h₂ _ (step_reached _ _) fun _ => rfl]
    simp only [Levels.step, Levels.count, Levels.mk.injEq, true_and]
    omega
  | item _ ih =>
    obtain ⟨i, g, h⟩ := ih
    exact ⟨i, g, fun l hl _ => h l hl nofun⟩
  | comma _ _ ih₁ ih₂ =>
    obtain ⟨i₁, g₁, h₁⟩ := ih₁
    obtain ⟨i₂, g₂, h₂⟩ := ih₂
    refine ⟨i₂, max g₁ g₂, fun l hl hi => ?_⟩
    rw [List.foldl_append, List.foldl_cons, h₁ l hl hi, h₂ _ (step_reached _ _) nofun]
    simp only [Levels.step, Levels.count, Levels.mk.injEq, true_and, hi rfl]
    omega

def reached (ts : List Token) : Nat := (ts.foldl Levels.step Levels.start).deepest

/-- Brackets around the tokens of a tree change nothing but the greatest weight. -/
theorem bracketed_steps (hs : Spans false ts n) (l : Levels) (hl : l.weight ≤ l.deepest) :
    (Token.opening :: ts ++ [Token.closing]).foldl Levels.step l =
      { l with deepest := max l.deepest (l.weight + 1 + reached ts) } := by
  obtain ⟨i, g, h⟩ := spans_gain hs
  have hgain : reached ts = g := by
    rw [reached, h Levels.start (Nat.le_refl _) nofun]
    simp [Levels.start]
  rw [hgain, List.cons_append, List.foldl_cons, List.foldl_append, h _ (step_reached _ _) nofun]
  simp only [List.foldl_cons, List.foldl_nil, Levels.step, Levels.count, Levels.mk.injEq, true_and]
  omega

end ActionDispatch.Script
