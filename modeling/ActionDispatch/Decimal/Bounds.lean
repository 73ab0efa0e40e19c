/-!
# Whole numbers of 64 bits
-/

set_option autoImplicit false

namespace ActionDispatch.Decimal

def wordLimit : Nat := 18446744073709551616

def signedLimit : Nat := 9223372036854775808

def int64? (n : Int) : Option Int64 :=
  if -(signedLimit : Int) ≤ n ∧ n < (signedLimit : Int) then some (Int64.ofInt n) else none

end ActionDispatch.Decimal
