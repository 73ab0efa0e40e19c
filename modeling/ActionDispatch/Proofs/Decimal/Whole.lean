import ActionDispatch.Decimal.Reading

/-!
# Written integers

A number has a place among the integers of 64 bits where it is in their range. The decimal text of
an integer is its digits behind an optional minus, and reading it gives the integer back, the
smallest one included.
-/

set_option autoImplicit false

namespace ActionDispatch.Decimal

theorem digits_are_digits (n : Nat) : ∀ c ∈ Nat.toDigits 10 n, c.isDigit = true :=
  fun _ hc => Nat.isDigit_of_mem_toDigits (by decide) (by decide) hc

theorem natural_digits (n : Nat) : natural? (Nat.toDigits 10 n) = some n := by
  have hd : (Nat.toDigits 10 n).all Char.isDigit = true :=
    List.all_eq_true.mpr (digits_are_digits n)
  have hv : digitsFrom 0 (Nat.toDigits 10 n) = n := Nat.ofDigitChars_ten_toDigits
  simp [natural?, hd, hv]

def InRange (n : Int) : Prop := -(signedLimit : Int) ≤ n ∧ n < (signedLimit : Int)

instance (n : Int) : Decidable (InRange n) := inferInstanceAs (Decidable (_ ∧ _))

theorem inRange_zero : InRange 0 := by decide

theorem inRange_int64 (n : Int64) : InRange n.toInt := by
  have hl := n.le_toInt
  have hu := n.toInt_lt
  simp only [InRange, signedLimit]
  omega

theorem toInt_ofInt_inRange {n : Int} (h : InRange n) : (Int64.ofInt n).toInt = n :=
  Int64.toInt_ofInt_of_le h.1 h.2

theorem int64_inRange {n : Int} (h : InRange n) : int64? n = some (Int64.ofInt n) := if_pos h

theorem int64_beyond {n : Int} (h : ¬InRange n) : int64? n = none := if_neg h

theorem int64_exact (n : Int64) : int64? n.toInt = some n := by
  rw [int64_inRange (inRange_int64 n), Int64.ofInt_toInt]

theorem integer_negative (n : Nat) :
    integer? ('-' :: Nat.toDigits 10 n) = int64? (-(n : Int)) := by
  unfold integer?
  simp only
  rw [natural_digits]
  simp only [if_true]

theorem integer_positive (n : Nat) : integer? (Nat.toDigits 10 n) = int64? (n : Int) := by
  have hd := digits_are_digits n
  unfold integer?
  split
  next negative digits hs =>
    split at hs
    next h => simp [h] at hd
    next h => simp [h] at hd
    next =>
      obtain ⟨rfl, rfl⟩ := Prod.mk.inj hs
      rw [natural_digits]
      simp only [Bool.false_eq_true, if_false]

/-- The text of an integer is a run of digits that reads as the integer, with a minus in front where
it is negative. -/
theorem integer_text (n : Int64) : ∃ (negative : Bool) (digits : List Char),
    (toString n.toInt).toList = (if negative then '-' :: digits else digits) ∧ digits ≠ [] ∧
      (∀ c ∈ digits, c.isDigit = true) ∧
      integer? (if negative then '-' :: digits else digits) = some n := by
  rw [Int.toString_eq_repr, Int.repr_eq_if]
  by_cases h : 0 ≤ n.toInt
  · refine ⟨false, Nat.toDigits 10 n.toInt.toNat, ?_, Nat.toDigits_ne_nil, digits_are_digits _, ?_⟩
    · simp [h]
    · have he : ((n.toInt.toNat : Nat) : Int) = n.toInt := by omega
      simp only [Bool.false_eq_true, if_false, integer_positive, he, int64_exact]
  · refine ⟨true, Nat.toDigits 10 (-n.toInt).toNat, ?_, Nat.toDigits_ne_nil,
      digits_are_digits _, ?_⟩
    · simp [h]
    · have he : -((-n.toInt).toNat : Int) = n.toInt := by omega
      simp only [if_true, integer_negative, he, int64_exact]

end ActionDispatch.Decimal
