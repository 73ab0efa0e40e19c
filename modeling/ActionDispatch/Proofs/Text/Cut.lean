import ActionDispatch.Text.Trim

/-!
# Cutting at a mark

A text is cut at the first place where its mark stands. Behind a body three quotes are found where
they were put, unless the body has three quotes itself or ends with one.
-/

set_option autoImplicit false

namespace ActionDispatch.Text

theorem after_self (m s : List Char) : after? m (m ++ s) = some s := by
  induction m with
  | nil => cases s <;> rfl
  | cons c m ih => simp [after?, ih]

theorem of_after {m s rest : List Char} (h : after? m s = some rest) : s = m ++ rest := by
  fun_induction after? m s <;> simp_all

theorem of_cut {mark s before rest : List Char} (h : cut? mark s = some (before, rest)) :
    s = before ++ mark ++ rest := by
  induction s generalizing before with
  | nil =>
    obtain ⟨r, hr, heq⟩ := Option.map_eq_some_iff.mp h
    simp only [Prod.mk.injEq] at heq
    obtain ⟨rfl, rfl⟩ := heq
    exact of_after hr
  | cons c s ih =>
    rw [cut?] at h
    split at h
    next r hr =>
      simp only [Option.some.injEq, Prod.mk.injEq] at h
      obtain ⟨rfl, rfl⟩ := h
      exact of_after hr
    next =>
      obtain ⟨⟨b, r⟩, hcut, heq⟩ := Option.map_eq_some_iff.mp h
      simp only [Prod.mk.injEq] at heq
      obtain ⟨rfl, rfl⟩ := heq
      simp [ih hcut]

theorem cut_first (mark before rest : List Char) :
    ∃ b r, cut? mark (before ++ mark ++ rest) = some (b, r) ∧ b.length ≤ before.length := by
  induction before with
  | nil =>
    refine ⟨[], rest, ?_, Nat.le_refl 0⟩
    rw [List.nil_append]
    have hself := after_self mark rest
    cases hs : mark ++ rest with
    | nil =>
      obtain ⟨rfl, rfl⟩ := List.append_eq_nil_iff.mp hs
      rfl
    | cons c s =>
      rw [hs] at hself
      simp [cut?, hself]
  | cons c before ih =>
    obtain ⟨b, r, hcut, hle⟩ := ih
    simp only [List.cons_append, cut?]
    split
    next r' _ => exact ⟨[], r', rfl, Nat.zero_le _⟩
    next => exact ⟨c :: b, r, by rw [hcut]; rfl, by simpa using hle⟩

def quotes : List Char := ['"', '"', '"']

def Quotable (s : List Char) : Prop := ¬quotes <:+: s ∧ s.getLast? ≠ some '"'

theorem quotable_iff (body rest : List Char) :
    Quotable body ↔
      ∀ a z, body ++ quotes ++ rest = a ++ quotes ++ z → body.length ≤ a.length := by
  constructor
  · rintro ⟨hthree, hlast⟩ a z heq
    rw [List.append_assoc, List.append_assoc] at heq
    rcases List.append_eq_append_iff.mp heq with ⟨x, rfl, -⟩ | ⟨x, rfl, hx⟩
    · simp
    -- what is left of the body begins with the quotes at `a`, as far as it goes
    match x with
    | [] => simp
    | [c] => simp_all [quotes]
    | [c, d] => simp_all [quotes]
    | c :: d :: e :: x =>
      have hmark : c :: d :: e :: x = quotes ++ x := by simp_all [quotes]
      exact absurd ⟨a, x, by rw [hmark, List.append_assoc]⟩ hthree
  · intro h
    constructor
    · rintro ⟨x, y, rfl⟩
      have hle := h x (y ++ quotes ++ rest) (by simp)
      simp only [quotes, List.length_append, List.length_cons] at hle
      omega
    · intro hlast
      obtain ⟨a, rfl⟩ := List.getLast?_eq_some_iff.mp hlast
      have hle := h a ('"' :: rest) (by simp [quotes])
      simp only [List.length_append, List.length_cons] at hle
      omega

/-- A body between quotes is cut off whole just where it can be quoted. -/
theorem cut_quotes (body rest : List Char) :
    cut? quotes (body ++ quotes ++ rest) = some (body, rest) ↔ Quotable body := by
  rw [quotable_iff body rest]
  constructor
  · intro hwhole a z heq
    obtain ⟨b, r, hcut, hle⟩ := cut_first quotes a z
    rw [← heq, hwhole] at hcut
    cases hcut
    exact hle
  · intro h
    obtain ⟨b, r, hcut, hle⟩ := cut_first quotes body rest
    have hsplit := of_cut hcut
    have hlength := h b r hsplit
    rw [List.append_assoc, List.append_assoc] at hsplit
    obtain ⟨rfl, htail⟩ := List.append_inj hsplit (by omega)
    rw [hcut, List.append_cancel_left htail]

end ActionDispatch.Text
