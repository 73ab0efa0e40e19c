import Mathlib.Data.List.DropRight
import ActionDispatch.Text.Trim

/-!
# Trimmed texts

A trimmed text has no white space at either end, so that trimming it again changes nothing.
-/

set_option autoImplicit false

namespace ActionDispatch.Text

theorem trimLeft_trimLeft (s : List Char) : trimLeft (trimLeft s) = trimLeft s :=
  List.dropWhile_idempotent isBlank s

theorem trimRight_eq (s : List Char) : trimRight s = s.rdropWhile isBlank := rfl

theorem trimRight_trim (s : List Char) : trimRight (trim s) = trim s := by
  have hsuffix : trim s <:+ trimRight s := List.dropWhile_suffix isBlank
  rw [trimRight_eq, List.rdropWhile_eq_self_iff]
  intro hne
  have hne' : s.rdropWhile isBlank ≠ [] := by
    intro h
    exact hne (List.suffix_nil.mp (h ▸ hsuffix))
  rw [hsuffix.getLast hne]
  exact List.rdropWhile_last_not isBlank s hne'

theorem trim_trim (s : List Char) : trim (trim s) = trim s := by
  conv_lhs => rw [trim, trimRight_trim]
  exact trimLeft_trimLeft (trimRight s)

theorem trim_trimLeft (s : List Char) : trim (trimLeft s) = trim s := by
  have hblank : ∀ c ∈ s.takeWhile isBlank, isBlank c = true := fun _ => List.mem_takeWhile_imp
  have hs : s = s.takeWhile isBlank ++ trimLeft s := List.takeWhile_append_dropWhile.symm
  generalize s.takeWhile isBlank = w at hblank hs
  generalize trimLeft s = t at hs
  subst hs
  simp only [trim, trimRight, List.reverse_append, List.dropWhile_append]
  split
  next hnone =>
    have hw : w.reverse.dropWhile isBlank = [] := by simpa [List.dropWhile_eq_nil_iff] using hblank
    rw [List.isEmpty_iff.mp hnone, hw]
  next =>
    rw [List.reverse_append, List.reverse_reverse]
    exact (List.dropWhile_append_of_pos hblank).symm

theorem all_dropWhile (p : Char → Bool) (s : List Char) : (s.dropWhile p).all p = s.all p := by
  induction s with
  | nil => rfl
  | cons c s ih => by_cases hc : p c = true <;> simp_all

theorem isBlankText_trim (s : List Char) : isBlankText (trim s) = isBlankText s := by
  simp [isBlankText, trim, trimLeft, trimRight, all_dropWhile]

end ActionDispatch.Text
