import ActionDispatch.Decimal.Bounds

/-!
# Reading numbers

The decimal notation of binary64 numbers: an optional sign, digits with an optional point, an
optional exponent; or a name for infinity or for no number. The result is correctly rounded.
-/

set_option autoImplicit false

namespace ActionDispatch.Decimal

def digitsFrom (n : Nat) (digits : List Char) : Nat :=
  digits.foldl (fun n c => 10 * n + (c.toNat - '0'.toNat)) n

def natural? (s : List Char) : Option Nat :=
  if !s.isEmpty && s.all Char.isDigit then some (digitsFrom 0 s) else none

def integer? (s : List Char) : Option Int64 :=
  let (negative, digits) := match s with
    | '-' :: rest => (true, rest)
    | '+' :: rest => (false, rest)
    | rest => (false, rest)
  match natural? digits with
  | none => none
  | some n =>
    int64? (if negative then -(n : Int) else n)

/-- `coefficient · 10 ^ exponent`, correctly rounded. The two bounds keep the powers of ten small:
beyond them the number is infinite or zero. -/
def rounded (coefficient : Nat) (exponent : Int) : Float :=
  if coefficient = 0 then 0
  else
    let magnitude := ((Nat.toDigits 10 coefficient).length : Int) + exponent
    if magnitude > 400 then 1.0 / 0.0
    else if magnitude < -400 then 0
    else Float.ofScientific coefficient (exponent < 0) exponent.natAbs

def exponent? : List Char → Option Int
  | [] => some 0
  | c :: rest =>
    if c = 'e' ∨ c = 'E' then
      match rest with
      | '-' :: digits => (natural? digits).map fun n => -(n : Int)
      | '+' :: digits => (natural? digits).map Int.ofNat
      | digits => (natural? digits).map Int.ofNat
    else none

def unsigned? (s : List Char) : Option Float :=
  let lowered := s.map Char.toLower
  if lowered = "inf".toList ∨ lowered = "infinity".toList then some (1.0 / 0.0)
  else if lowered = "nan".toList then some (0.0 / 0.0)
  else
    let whole := s.takeWhile Char.isDigit
    let rest := s.dropWhile Char.isDigit
    let (fraction, rest) := match rest with
      | '.' :: more => (more.takeWhile Char.isDigit, more.dropWhile Char.isDigit)
      | more => ([], more)
    if whole.isEmpty && fraction.isEmpty then none
    else (exponent? rest).map fun e => rounded (digitsFrom 0 (whole ++ fraction))
      (e - fraction.length)

def float? : List Char → Option Float
  | '-' :: rest => (unsigned? rest).map (- ·)
  | '+' :: rest => unsigned? rest
  | s => unsigned? s

end ActionDispatch.Decimal
