import ActionDispatch.Decimal.Bounds

/-!
# Shortest decimals

A finite binary64 number is `significand · 2 ^ exponent`. Among the decimals that round to it, the
shortest is the one with the fewest digits, and of those the one nearest to the number; of two
equally near ones a `Tie` decides.
-/

set_option autoImplicit false

namespace ActionDispatch.Decimal

structure Binary where
  significand : Nat
  exponent : Int

structure Numeral where
  coefficient : Nat
  exponent : Int
deriving DecidableEq, Repr

inductive Tie where
  | up
  | even
deriving DecidableEq, Repr

def isNegative (x : Float) : Bool :=
  signedLimit ≤ x.toBits.toNat

def hiddenBit : Nat := 4503599627370496

def Binary.ofFloat (x : Float) : Binary :=
  let bits : Nat := x.toBits.toNat
  let fraction : Nat := bits % hiddenBit
  let biased : Nat := bits / hiddenBit % 2048
  if biased = 0 then ⟨fraction, -1074⟩ else ⟨hiddenBit + fraction, (biased : Int) - 1075⟩

/-- A non-negative fraction and the interval of fractions over the same denominator that round to
the same binary number, its ends included iff `closed`. -/
structure Neighbourhood where
  low : Nat
  value : Nat
  high : Nat
  denominator : Nat
  closed : Bool

/-- The numbers nearer to `b` than to any other binary number. Below a power of two the neighbours
lie half as far apart. -/
def Binary.neighbourhood (b : Binary) : Neighbourhood :=
  let below := if b.significand = hiddenBit then 1 else 2
  let up := (b.exponent - 2).toNat
  let down := (2 - b.exponent).toNat
  ⟨(4 * b.significand - below) * Nat.pow 2 up, 4 * b.significand * Nat.pow 2 up,
    (4 * b.significand + 2) * Nat.pow 2 up, Nat.pow 2 down, b.significand % 2 = 0⟩

def Neighbourhood.scaled (n : Neighbourhood) (q : Int) : Neighbourhood :=
  let times := Nat.pow 10 (-q).toNat
  ⟨n.low * times, n.value * times, n.high * times, n.denominator * Nat.pow 10 q.toNat, n.closed⟩

def Neighbourhood.holds (n : Neighbourhood) (whole : Nat) : Bool :=
  let w := whole * n.denominator
  if n.closed then decide (n.low ≤ w) && decide (w ≤ n.high)
  else decide (n.low < w) && decide (w < n.high)

def Neighbourhood.nearest? (n : Neighbourhood) (tie : Tie) : Option Nat :=
  let down := n.value / n.denominator
  let rest := n.value % n.denominator
  match n.holds down, n.holds (down + 1) with
  | false, false => none
  | true, false => some down
  | false, true => some (down + 1)
  | true, true =>
    if 2 * rest < n.denominator then some down
    else if n.denominator < 2 * rest then some (down + 1)
    else match tie with
      | .up => some (down + 1)
      | .even => some (if down % 2 = 0 then down else down + 1)

def digitCount (n : Nat) : Nat :=
  (Nat.toDigits 10 n).length

def Neighbourhood.magnitude (n : Neighbourhood) : Int :=
  if n.denominator ≤ n.value then digitCount (n.value / n.denominator)
  else 1 - (digitCount (n.denominator / n.value) : Int)

def Neighbourhood.shortestFrom (n : Neighbourhood) (tie : Tie) (digits : Nat) : Nat → Numeral
  | 0 => ⟨n.value / n.denominator, 0⟩
  | more + 1 =>
    let q := n.magnitude - digits
    match (n.scaled q).nearest? tie with
    | some coefficient => ⟨coefficient, q⟩
    | none => n.shortestFrom tie (digits + 1) more

def Numeral.reduced (d : Numeral) : Nat → Numeral
  | 0 => d
  | digits + 1 =>
    if d.coefficient % 10 = 0 then (Numeral.mk (d.coefficient / 10) (d.exponent + 1)).reduced digits
    else d

def shortest (tie : Tie) (x : Float) : Numeral :=
  ((Binary.ofFloat x).neighbourhood.shortestFrom tie 1 17).reduced 18

end ActionDispatch.Decimal
