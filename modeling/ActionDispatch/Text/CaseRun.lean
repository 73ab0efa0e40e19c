/-!
# Runs of a case mapping

A case mapping is a list of runs of code points that lie equally far from their counterparts.
-/

set_option autoImplicit false

namespace ActionDispatch.Text

structure CaseRun where
  first : Nat
  last : Nat
  step : Nat
  delta : Int

def CaseRun.counterpart? (run : CaseRun) (code : Nat) : Option Nat :=
  if run.first ≤ code ∧ code ≤ run.last ∧ (code - run.first) % run.step = 0 then
    some (Int.toNat (code + run.delta))
  else none

end ActionDispatch.Text
