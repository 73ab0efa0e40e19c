import ActionDispatch.Proofs.Script.Tokens

/-!
# Nesting of bytes

The scanner that measures the nesting of a script looks at ASCII characters only. Each byte of any
other character is passed as the character itself is, in a string and outside of one. So a script
and its bytes have the same nesting.
-/

set_option autoImplicit false

namespace ActionDispatch.Script
open Text

def units (bytes : List UInt8) : List Char := bytes.map Char.ofUInt8

def IsAscii (c : Char) : Prop := c.toNat < 128

instance (c : Char) : Decidable (IsAscii c) := inferInstanceAs (Decidable (_ < _))

def spread (s : List Char) : List Char := units (s.flatMap String.utf8EncodeChar)

variable {c d q : Char} {m s u : List Char}

theorem utf8_units (text : String) : units text.toUTF8.data.toList = spread text.toList := by
  rw [String.toUTF8_eq_toByteArray, ← String.utf8Encode_toList, List.utf8Encode,
    List.data_toByteArray]
  rfl

theorem spread_cons (c : Char) (s : List Char) :
    spread (c :: s) = units (String.utf8EncodeChar c) ++ spread s := by
  simp [spread, units]

theorem unit_toNat {n : Nat} (hn : n < 256) : (Char.ofUInt8 (UInt8.ofNat n)).toNat = n := by
  have hunit : (Char.ofUInt8 (UInt8.ofNat n)).toNat = (UInt8.ofNat n).toNat := rfl
  rw [hunit, UInt8.toNat_ofNat_of_lt' hn]

theorem spread_ascii (hc : IsAscii c) (s : List Char) : spread (c :: s) = c :: spread s := by
  have hval : c.val.toNat ≤ 127 := Nat.le_of_lt_succ hc
  have hunit : Char.ofUInt8 (UInt8.ofNat c.val.toNat) = c :=
    Char.toNat_inj.mp (unit_toNat (by omega))
  rw [spread_cons, String.utf8EncodeChar, if_pos hval, units, List.map_singleton, hunit]
  rfl

/-- No byte of a character outside of ASCII is an ASCII character. -/
theorem wide_units (hc : ¬IsAscii c) : ∀ d ∈ units (String.utf8EncodeChar c), ¬IsAscii d := by
  have hval : ¬c.val.toNat ≤ 127 := fun h => hc (Nat.lt_succ_of_le h)
  have hunit : ∀ n, 128 ≤ n → n < 256 → ¬IsAscii (Char.ofUInt8 (UInt8.ofNat n)) := by
    intro n hle hlt hascii
    rw [IsAscii, unit_toNat hlt] at hascii
    omega
  rw [String.utf8EncodeChar, if_neg hval]
  -- two, three or four bytes
  split
  next =>
    simp only [units, List.map_cons, List.map_nil, List.forall_mem_cons, List.not_mem_nil]
    exact ⟨hunit _ (by omega) (by omega), hunit _ (by omega) (by omega), nofun⟩
  next =>
    split
    next =>
      simp only [units, List.map_cons, List.map_nil, List.forall_mem_cons, List.not_mem_nil]
      exact ⟨hunit _ (by omega) (by omega), hunit _ (by omega) (by omega),
        hunit _ (by omega) (by omega), nofun⟩
    next =>
      simp only [units, List.map_cons, List.map_nil, List.forall_mem_cons, List.not_mem_nil]
      exact ⟨hunit _ (by omega) (by omega), hunit _ (by omega) (by omega),
        hunit _ (by omega) (by omega), hunit _ (by omega) (by omega), nofun⟩

theorem wide_head (hc : ¬IsAscii c) (s : List Char) :
    ∃ d u, spread (c :: s) = d :: u ++ spread s ∧ ¬IsAscii d ∧ ∀ e ∈ u, ¬IsAscii e := by
  have hwide := wide_units hc
  cases hunits : units (String.utf8EncodeChar c) with
  | nil => exact absurd (List.map_eq_nil_iff.mp hunits) (String.utf8EncodeChar_ne_nil)
  | cons d u =>
    rw [hunits, List.forall_mem_cons] at hwide
    exact ⟨d, u, by rw [spread_cons, hunits], hwide.1, hwide.2⟩

theorem wide_ne (hc : IsAscii c) (hd : ¬IsAscii d) : c ≠ d := fun heq => hd (heq ▸ hc)

theorem after_spread (hm : ∀ p ∈ m, IsAscii p) (s : List Char) :
    after? m (spread s) = (after? m s).map spread := by
  induction m generalizing s with
  | nil => cases s <;> rfl
  | cons p m ih =>
    obtain ⟨hp, hrest⟩ := List.forall_mem_cons.mp hm
    cases s with
    | nil => rfl
    | cons c s =>
      by_cases hc : IsAscii c
      · rw [spread_ascii hc, after?, after?]
        split
        next => exact ih hrest s
        next => rfl
      · obtain ⟨d, u, hspread, hd, -⟩ := wide_head hc s
        rw [hspread, List.cons_append, after?, after?, if_neg (wide_ne hp hd),
          if_neg (wide_ne hp hc)]
        rfl

theorem cut_passed {p : Char} (hc : p ≠ c) :
    (cut? (p :: m) (c :: s)).map Prod.snd = (cut? (p :: m) s).map Prod.snd := by
  simp [cut?, after?, hc, Function.comp_def]

theorem cut_wide {p : Char} (hp : IsAscii p) (hu : ∀ d ∈ u, ¬IsAscii d) :
    (cut? (p :: m) (u ++ s)).map Prod.snd = (cut? (p :: m) s).map Prod.snd := by
  induction u with
  | nil => rfl
  | cons d u ih =>
    obtain ⟨hd, hrest⟩ := List.forall_mem_cons.mp hu
    rw [List.cons_append, cut_passed (wide_ne hp hd), ih hrest]

theorem cut_spread {p : Char} (hm : ∀ c ∈ p :: m, IsAscii c) (s : List Char) :
    (cut? (p :: m) (spread s)).map Prod.snd = ((cut? (p :: m) s).map Prod.snd).map spread := by
  have hp : IsAscii p := hm p List.mem_cons_self
  induction s with
  | nil => rfl
  | cons c s ih =>
    by_cases hc : IsAscii c
    · have hafter := after_spread hm (c :: s)
      rw [spread_ascii hc] at hafter ⊢
      rw [cut?, cut?, hafter]
      cases after? (p :: m) (c :: s) with
      | none => simpa [Function.comp_def] using ih
      | some rest => rfl
    · obtain ⟨d, u, hspread, hd, hu⟩ := wide_head hc s
      rw [hspread, cut_wide hp (List.forall_mem_cons.mpr ⟨hd, hu⟩), cut_passed (wide_ne hp hc), ih]

theorem quote_ends (hq : q ≠ '\\') (s : List Char) : afterQuote q (q :: s) = s := by
  rw [afterQuote, if_pos rfl]
  · exact fun heq => absurd heq hq
  · exact fun _ _ heq => absurd heq hq

theorem quote_passed (hq : c ≠ q) (hc : c ≠ '\\') (s : List Char) :
    afterQuote q (c :: s) = afterQuote q s := by
  rw [afterQuote, if_neg hq]
  · exact fun heq => absurd heq hc
  · exact fun _ _ heq => absurd heq hc

theorem quote_wide (hq : IsAscii q) (hu : ∀ d ∈ u, ¬IsAscii d) :
    afterQuote q (u ++ s) = afterQuote q s := by
  have hslash : IsAscii '\\' := by decide
  induction u with
  | nil => rfl
  | cons d u ih =>
    obtain ⟨hd, hrest⟩ := List.forall_mem_cons.mp hu
    rw [List.cons_append, quote_passed (wide_ne hq hd).symm (wide_ne hslash hd).symm, ih hrest]

theorem quote_spread (hq : IsAscii q) (s : List Char) :
    afterQuote q (spread s) = spread (afterQuote q s) := by
  have hslash : IsAscii '\\' := by decide
  fun_induction afterQuote q s with
  | case1 => rfl
  | case2 =>
    rw [spread_ascii hslash]
    rfl
  | case3 c s ih =>
    rw [spread_ascii hslash]
    by_cases hc : IsAscii c
    · rw [spread_ascii hc, afterQuote, ih]
    · -- the first byte behind the backslash is skipped with it, and the others are passed
      obtain ⟨d, u, hspread, -, hu⟩ := wide_head hc s
      rw [hspread, List.cons_append, afterQuote, quote_wide hq hu, ih]
  | case4 s hend hskip =>
    have hc : q ≠ '\\' := by
      rintro rfl
      cases s with
      | nil => exact hend rfl rfl
      | cons d s => exact hskip d s rfl rfl
    rw [spread_ascii hq, quote_ends hc]
  | case5 c s hend hskip hne ih =>
    have hc : c ≠ '\\' := by
      rintro rfl
      cases s with
      | nil => exact hend rfl rfl
      | cons d s => exact hskip d s rfl rfl
    by_cases hascii : IsAscii c
    · rw [spread_ascii hascii, quote_passed hne hc, ih]
    · rw [spread_cons, quote_wide hq (wide_units hascii), ih]

theorem pair_ascii (h : isPair c (some d) = true) : IsAscii d := by
  unfold isPair at h
  split at h <;> simp_all <;> decide

theorem pair_spread (c : Char) (s : List Char) :
    isPair c (spread s).head? = isPair c s.head? ∧
      (isPair c s.head? = true → (spread s).tail = spread s.tail) := by
  cases s with
  | nil => exact ⟨rfl, fun _ => rfl⟩
  | cons d s =>
    by_cases hd : IsAscii d
    · rw [spread_ascii hd]
      exact ⟨rfl, fun _ => rfl⟩
    · obtain ⟨e, u, hspread, he, -⟩ := wide_head hd s
      have hunit : isPair c (some e) = false := Bool.eq_false_iff.mpr fun h => he (pair_ascii h)
      have hchar : isPair c (some d) = false := Bool.eq_false_iff.mpr fun h => hd (pair_ascii h)
      rw [hspread]
      exact ⟨hunit.trans hchar.symm, fun h => absurd (hchar.symm.trans h) Bool.false_ne_true⟩

theorem next_spread (hc : IsAscii c) (s : List Char) :
    Token.next? (c :: spread s) = (Token.next? (c :: s)).map fun (t, rest) => (t, spread rest) := by
  obtain ⟨hpair, htail⟩ := pair_spread c s
  have hmark : ∀ p ∈ [c, c, c], IsAscii p := by simpa using hc
  simp only [Token.next?]
  split
  next =>
    rw [after_spread (by simpa using hc)]
    cases after? [c, c] s with
    | none => simp [quote_spread hc]
    | some body =>
      have hfound : ∀ s, ((cut? [c, c, c] s).map fun found => (Token.other, found.2)) =
          ((cut? [c, c, c] s).map Prod.snd).map (Token.other, ·) := by
        simp [Function.comp_def]
      simp only [Option.map_some]
      rw [hfound, hfound, cut_spread hmark]
      cases (cut? [c, c, c] body).map Prod.snd <;> rfl
  next =>
    split
    next => rfl
    next =>
      split
      next => rfl
      next =>
        split
        next => rfl
        next =>
          rw [hpair]
          split
          next htwo => simp [htail htwo]
          next => split <;> rfl

theorem wide_unscanned (hc : ¬IsAscii c) : c ∉ scanned := by
  have hscanned : scanned.all (fun d => decide (IsAscii d)) = true := by decide
  exact fun hin => hc (of_decide_eq_true (List.all_eq_true.mp hscanned c hin))

theorem wide_passed (hu : ∀ d ∈ u, ¬IsAscii d) (s : List Char) : marks (u ++ s) = marks s := by
  induction u with
  | nil => rfl
  | cons d u ih =>
    obtain ⟨hd, hrest⟩ := List.forall_mem_cons.mp hu
    rw [List.cons_append, unscanned_passed (wide_unscanned hd), ih hrest]

theorem marks_spread (s : List Char) : marks (spread s) = marks s := by
  induction hn : s.length using Nat.strong_induction_on generalizing s with
  | _ n ih =>
    subst hn
    cases s with
    | nil => rfl
    | cons c s =>
      by_cases hc : IsAscii c
      · have hspread := next_spread hc s
        rw [spread_ascii hc]
        cases hnext : Token.next? (c :: s) with
        | none =>
          rw [hnext] at hspread
          rw [marks, marks, tokens_end hnext, tokens_end hspread]
        | some found =>
          obtain ⟨t, rest⟩ := found
          rw [hnext] at hspread
          have hrest := ih rest.length (Token.next?_shorter hnext) rest rfl
          rw [marks, marks] at hrest ⊢
          rw [tokens_cons hnext, tokens_cons hspread, List.filter_cons, List.filter_cons, hrest]
      · rw [spread_cons, wide_passed (wide_units hc), unscanned_passed (wide_unscanned hc)]
        exact ih s.length (Nat.lt_succ_self _) s rfl

/-- A text has the nesting of its bytes. -/
theorem nesting_spread (s : List Char) : nesting (spread s) = nesting s := by
  rw [nesting_marks, nesting_marks, marks_spread]

end ActionDispatch.Script
