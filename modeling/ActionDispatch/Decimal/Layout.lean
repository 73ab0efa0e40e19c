import ActionDispatch.Decimal.Shortest

/-!
# Writing numbers

A layout says how the digits of a number are set: when positional notation is used, whether a whole
number keeps a decimal place, and what stands for the values that are no numbers.
-/

set_option autoImplicit false

namespace ActionDispatch.Decimal

structure Layout where
  tie : Tie
  positional : Option (Int × Int)
  keepsPlace : Bool
  notANumber : String
  infinite : String

def zeros (n : Nat) : List Char :=
  List.replicate n '0'

def positionalText (keepsPlace : Bool) (digits : List Char) (place : Int) : List Char :=
  if place ≤ 0 then '0' :: '.' :: zeros (-place).toNat ++ digits
  else
    let whole := digits.take place.toNat ++ zeros (place.toNat - digits.length)
    let fraction := digits.drop place.toNat
    if fraction.isEmpty then (if keepsPlace then whole ++ ['.', '0'] else whole)
    else whole ++ '.' :: fraction

def exponentText (digits : List Char) (exponent : Int) : List Char :=
  let mantissa := match digits with
    | first :: second :: more => first :: '.' :: second :: more
    | few => few
  let sign := if exponent < 0 then '-' else '+'
  mantissa ++ 'e' :: sign :: Nat.toDigits 10 exponent.natAbs

def Layout.isPositional (l : Layout) (exponent : Int) : Bool :=
  match l.positional with
  | none => true
  | some (least, greatest) => decide (least ≤ exponent) && decide (exponent ≤ greatest)

def Layout.decimal (l : Layout) (d : Numeral) : List Char :=
  let digits := Nat.toDigits 10 d.coefficient
  let place := d.exponent + digits.length
  if l.isPositional (place - 1) then positionalText l.keepsPlace digits place
  else exponentText digits (place - 1)

def Layout.write (l : Layout) (x : Float) : String :=
  if x.isNaN then l.notANumber
  else
    let sign := if isNegative x then ['-'] else []
    if x.isInf then String.ofList sign ++ l.infinite
    else
      let magnitude := if x == 0 then Numeral.mk 0 0 else shortest l.tie x
      String.ofList (sign ++ l.decimal magnitude)

def plain : Layout := ⟨.up, none, false, "NaN", "inf"⟩

end ActionDispatch.Decimal
