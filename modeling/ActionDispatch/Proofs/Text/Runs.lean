import ActionDispatch.Proofs.Text.Trim

/-!
# Runs of characters

A text is read in runs of a class of characters, and a run ends where the next character is of
another class. Digits and white space are small classes: what holds of each of their characters
holds of them.
-/

set_option autoImplicit false

namespace ActionDispatch.Text

def EndsRun (p : Char → Bool) (s : List Char) : Prop := s.head?.all (fun c => !p c) = true

theorem run_split {p : Char → Bool} {t s : List Char} (ht : ∀ c ∈ t, p c = true)
    (hs : EndsRun p s) :
    (t ++ s).takeWhile p = t ∧ (t ++ s).dropWhile p = s := by
  rw [List.takeWhile_append_of_pos ht, List.dropWhile_append_of_pos ht]
  cases s with
  | nil => simp
  | cons c s => simp_all [EndsRun]

theorem endsRun_dropWhile (p : Char → Bool) (s : List Char) : EndsRun p (s.dropWhile p) := by
  rcases hd : s.dropWhile p with _ | ⟨c, r⟩
  · rfl
  · have hc := List.head?_dropWhile_not p s
    simp_all [EndsRun]

/-- A run ends where it does, whatever stands behind the text, if that does not carry it on. -/
theorem run_within {p : Char → Bool} {rest : List Char} (s : List Char) (hrest : EndsRun p rest) :
    (s ++ rest).takeWhile p = s.takeWhile p ∧ (s ++ rest).dropWhile p = s.dropWhile p ++ rest := by
  have hends : EndsRun p (s.dropWhile p ++ rest) := by
    have hs := endsRun_dropWhile p s
    cases hd : s.dropWhile p with
    | nil => exact hrest
    | cons c r =>
      rw [hd] at hs
      exact hs
  have hin : ∀ c ∈ s.takeWhile p, p c = true := fun _ => List.mem_takeWhile_imp
  have hsplit := run_split hin hends
  rwa [← List.append_assoc, List.takeWhile_append_dropWhile] at hsplit

/-- What holds of the characters with some codes holds of every character with one of them. -/
theorem codes_hold {codes : List Nat} {p : Char → Bool}
    (hp : codes.all (fun n => p (Char.ofNat n)) = true) {c : Char} (hc : c.toNat ∈ codes) :
    p c = true := by
  have hn := List.all_eq_true.mp hp c.toNat hc
  rwa [Char.ofNat_toNat] at hn

def digitCodes : List Nat := List.range' 0x30 10

theorem digit_code {c : Char} (h : c.isDigit = true) : c.toNat ∈ digitCodes := by
  simp only [Char.isDigit, Bool.and_eq_true, decide_eq_true_eq, UInt32.le_iff_toNat_le] at h
  exact List.mem_range'_1.mpr ⟨h.1, Nat.lt_succ_of_le h.2⟩

theorem digit_holds (p : Char → Bool) (hp : digitCodes.all (fun n => p (Char.ofNat n)) = true)
    {c : Char} (hc : c.isDigit = true) : p c = true :=
  codes_hold hp (digit_code hc)

def blankCodes : List Nat :=
  [0x9, 0xA, 0xB, 0xC, 0xD, 0x20, 0x85, 0xA0, 0x1680, 0x2000, 0x2001, 0x2002, 0x2003, 0x2004,
    0x2005, 0x2006, 0x2007, 0x2008, 0x2009, 0x200A, 0x2028, 0x2029, 0x202F, 0x205F, 0x3000]

theorem blank_code {c : Char} (h : isBlank c = true) : c.toNat ∈ blankCodes := by
  have hspace : ' '.toNat = 32 := rfl
  unfold isBlank at h
  split at h
  · simp only [Bool.or_eq_true, beq_iff_eq, Bool.and_eq_true, decide_eq_true_eq] at h
    rcases h with rfl | h
    · decide
    · simp only [blankCodes, List.mem_cons, List.not_mem_nil, or_false]
      omega
  · simp only [inRuns, List.any_cons, List.any_nil, Bool.or_false, Bool.or_eq_true,
      Bool.and_eq_true, decide_eq_true_eq] at h
    simp only [blankCodes, List.mem_cons, List.not_mem_nil, or_false]
    omega

theorem blank_holds (p : Char → Bool) (hp : blankCodes.all (fun n => p (Char.ofNat n)) = true)
    {c : Char} (hc : isBlank c = true) : p c = true :=
  codes_hold hp (blank_code hc)

theorem blank_outside {p : Char → Bool} (hp : blankCodes.all (fun n => !p (Char.ofNat n)) = true)
    {c : Char} (hc : isBlank c = true) : p c = false := by
  simpa using blank_holds (!p ·) hp hc

theorem class_not_blank {p : Char → Bool}
    (hp : blankCodes.all (fun n => !p (Char.ofNat n)) = true) {c : Char} (hc : p c = true) :
    isBlank c = false := by
  cases hb : isBlank c with
  | false => rfl
  | true => rw [blank_outside hp hb] at hc; cases hc

theorem blank_not_word {c : Char} (hc : isBlank c = true) : isWordChar c = false :=
  blank_outside (by decide +kernel) hc

theorem word_not_blank {c : Char} (hc : isWordChar c = true) : isBlank c = false := by
  rw [Bool.eq_false_iff]
  intro hblank
  rw [blank_not_word hblank] at hc
  cases hc

def Blanks (s : List Char) : Prop := ∀ c ∈ s, isBlank c = true

instance (s : List Char) : Decidable (Blanks s) :=
  List.decidableBAll (fun c => isBlank c = true) s

theorem trimLeft_blanks {w s : List Char} (hw : Blanks w) (hs : EndsRun isBlank s) :
    trimLeft (w ++ s) = s :=
  (run_split hw hs).2

theorem trimLeft_solid {s : List Char} (hs : EndsRun isBlank s) : trimLeft s = s :=
  trimLeft_blanks (w := []) (by simp [Blanks]) hs

theorem trimRight_blanks {w s : List Char} (hw : Blanks w) (hs : EndsRun isBlank s.reverse) :
    trimRight (s ++ w) = s := by
  have hrev : Blanks w.reverse := fun c hc => hw c (List.mem_reverse.mp hc)
  have hleft := trimLeft_blanks hrev hs
  rw [trimLeft] at hleft
  rw [trimRight, List.reverse_append, hleft, List.reverse_reverse]

structure Solid (s : List Char) : Prop where
  ne_nil : s ≠ []
  first : EndsRun isBlank s
  last : EndsRun isBlank s.reverse

theorem solid_ends {s : List Char} (hs : Solid s) (rest : List Char) :
    EndsRun isBlank (s ++ rest) := by
  have hfirst := hs.first
  obtain ⟨c, r, rfl⟩ := List.exists_cons_of_ne_nil hs.ne_nil
  exact hfirst

theorem solid_reverse {s : List Char} (hs : Solid s) : Solid s.reverse :=
  ⟨List.reverse_ne_nil_iff.mpr hs.ne_nil, hs.last, by simpa using hs.first⟩

theorem solid_last {t : List Char} (ht : Solid t) (s : List Char) :
    EndsRun isBlank (s ++ t).reverse := by
  rw [List.reverse_append]
  exact solid_ends (solid_reverse ht) s.reverse

theorem solid_around {s t : List Char} (hs : Solid s) (m : List Char) (ht : Solid t) :
    Solid (s ++ (m ++ t)) where
  ne_nil := by simp [hs.ne_nil]
  first := solid_ends hs _
  last := by simpa using solid_ends (solid_reverse ht) (m.reverse ++ s.reverse)

theorem dense_solid {s : List Char} (hne : s ≠ []) (hs : ∀ c ∈ s, isBlank c = false) : Solid s := by
  have hends : ∀ t : List Char, (∀ c ∈ t, isBlank c = false) → EndsRun isBlank t := by
    intro t ht
    cases t with
    | nil => rfl
    | cons c t => simp [EndsRun, ht c (by simp)]
  exact ⟨hne, hends s hs, hends s.reverse fun c hc => hs c (List.mem_reverse.mp hc)⟩

theorem dense_single {c : Char} (hc : isBlank c = false) : ∀ d ∈ [c], isBlank d = false := by
  intro d hd
  rw [List.mem_singleton.mp hd]
  exact hc

theorem trim_blanks {w s v : List Char} (hw : Blanks w) (hv : Blanks v) (hs : Solid s) :
    trim (w ++ s ++ v) = s := by
  rw [trim, trimRight_blanks hv (solid_last hs w), trimLeft_blanks hw hs.first]

theorem blanks_around (s : List Char) :
    ∃ w v, Blanks w ∧ Blanks v ∧ trimRight s = w ++ trim s ∧ s = w ++ trim s ++ v := by
  have htake : ∀ t : List Char, Blanks (t.takeWhile isBlank) := fun t _ => List.mem_takeWhile_imp
  have hleft : trimRight s = (trimRight s).takeWhile isBlank ++ trim s :=
    List.takeWhile_append_dropWhile.symm
  have hright : s = trimRight s ++ (s.reverse.takeWhile isBlank).reverse := by
    rw [trimRight, ← List.reverse_append, List.takeWhile_append_dropWhile, List.reverse_reverse]
  refine ⟨_, _, htake _, fun c hc => htake s.reverse c (List.mem_reverse.mp hc), hleft, ?_⟩
  rw [← hleft]
  exact hright

theorem strip_within (s : String) : (strip s).toList <:+: s.toList := by
  obtain ⟨w, v, -, -, -, hs⟩ := blanks_around s.toList
  exact ⟨w, v, by rw [strip, String.toList_ofList]; exact hs.symm⟩

theorem trimRight_solid {s : List Char} (hs : EndsRun isBlank s.reverse) : trimRight s = s := by
  simpa using trimRight_blanks (w := []) (by simp [Blanks]) hs

theorem trimRight_blank {w : List Char} (hw : Blanks w) : trimRight w = [] :=
  trimRight_blanks (s := []) hw rfl

theorem trim_blank {w : List Char} (hw : Blanks w) : trim w = [] := by
  rw [trim, trimRight_blank hw]
  rfl

theorem trimRight_cons {c : Char} (hc : isBlank c = false) (s : List Char) :
    trimRight (c :: s) = c :: trimRight s := by
  simp only [trimRight, List.reverse_cons, List.dropWhile_append]
  split
  next hempty => simp [List.isEmpty_iff.mp hempty, hc]
  next => simp

theorem trimRight_split (s : List Char) : ∃ v, Blanks v ∧ s = trimRight s ++ v := by
  obtain ⟨w, v, -, hv, hw, hs⟩ := blanks_around s
  exact ⟨v, hv, by rw [hw]; exact hs⟩

/-- White space at the end of a text stands behind its last other character. -/
theorem trimRight_behind {s : List Char} (hs : EndsRun isBlank s.reverse) (t : List Char) :
    trimRight (s ++ t) = s ++ trimRight t := by
  obtain ⟨v, hv, ht⟩ := trimRight_split t
  have hends : EndsRun isBlank (s ++ trimRight t).reverse := by
    have hlast : EndsRun isBlank (trimRight t).reverse := by
      rw [trimRight, List.reverse_reverse]
      exact endsRun_dropWhile isBlank _
    rw [List.reverse_append]
    cases hr : (trimRight t).reverse with
    | nil => exact hs
    | cons c r =>
      rw [hr] at hlast
      exact hlast
  conv_lhs => rw [ht, ← List.append_assoc]
  exact trimRight_blanks hv hends

theorem trimRight_front (s : List Char) : trimRight s <+: s := by
  obtain ⟨v, -, hs⟩ := trimRight_split s
  exact ⟨v, hs.symm⟩

theorem trimRight_nil {s : List Char} (h : trimRight s = []) : Blanks s := by
  obtain ⟨v, hv, hs⟩ := trimRight_split s
  rw [hs, h]
  exact hv

/-- Where no white space stands in front of a text it is trimmed at its end alone. -/
theorem trim_ends {s : List Char} (hs : EndsRun isBlank s) : trim s = trimRight s := by
  refine trimLeft_solid ?_
  obtain ⟨rest, hrest⟩ := trimRight_front s
  cases ht : trimRight s with
  | nil => rfl
  | cons c t =>
    rw [← hrest, ht] at hs
    exact hs

theorem solid_trim {s : List Char} (hs : Solid s) : trim s = s := by
  simpa using trim_blanks (w := []) (v := []) (by simp [Blanks]) (by simp [Blanks]) hs

theorem trim_solid {s : List Char} (hs : isBlankText s = false) : Solid (trim s) where
  ne_nil := by
    intro hnil
    rw [← isBlankText_trim, hnil] at hs
    cases hs
  first := endsRun_dropWhile isBlank (trimRight s)
  last := by
    have hkept : (trim s).reverse.dropWhile isBlank = (trim s).reverse := by
      rw [← List.reverse_inj, List.reverse_reverse]
      exact trimRight_trim s
    rw [← hkept]
    exact endsRun_dropWhile isBlank _

end ActionDispatch.Text
