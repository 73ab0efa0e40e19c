import ActionDispatch.Decimal.Bounds
import ActionDispatch.Decimal.Reading
import ActionDispatch.Json.Node

/-!
# Reading JSON

The strict grammar of JSON. A whole number within 64 bits stays whole. Any other number is a
significand of as many digits as fit in 64 bits, times or divided by a power of ten in binary64
arithmetic, which is not always the nearest number to its text.
-/

set_option autoImplicit false

namespace ActionDispatch.Json

open Decimal

def isSpace (c : Char) : Bool :=
  c = ' ' || c = '\n' || c = '\t' || c = '\r'

def skipSpace (s : List Char) : List Char :=
  s.dropWhile isSpace

def absorb (significand : Nat) : List Char → Nat × List Char
  | [] => (significand, [])
  | d :: digits =>
    let next := digitsFrom significand [d]
    if next < wordLimit then absorb next digits else (significand, d :: digits)

/-- A significand of 64 bits times `10 ^ exponent`; nothing if that is infinite. A power beyond
`10 ^ 308` is divided by in two steps, and what then remains is zero. -/
def scale? (significand : Nat) (exponent : Int) : Option Float :=
  let f := significand.toUInt64.toFloat
  if significand = 0 then some 0
  else if 308 < exponent then none
  else if 0 ≤ exponent then
    let scaled := f * rounded 1 exponent
    if scaled.isInf then none else some scaled
  else if -308 ≤ exponent then some (f / rounded 1 (-exponent))
  else if -616 ≤ exponent then some (f / rounded 1 308 / rounded 1 (-exponent - 308))
  else some 0

def numberNode (negative : Bool) (whole : List Char) (fraction : Option (List Char))
    (exponent : Option Int) : Node :=
  let (significand, dropped) := absorb 0 whole
  let signed (x : Option Float) : Node := match x with
    | some x => .float (if negative then -x else x)
    | none => .unreadable
  match fraction, exponent with
  | none, none =>
    if !dropped.isEmpty then signed (scale? significand dropped.length)
    else if !negative then .int significand
    else if significand = 0 ∨ signedLimit < significand then
      signed (some significand.toUInt64.toFloat)
    else .int (-significand)
  | fraction, exponent =>
    let places := fraction.getD []
    let (significand, ignored) := absorb significand places
    let shift := (dropped.length : Int) - (places.length - ignored.length : Nat)
    signed (scale? significand (shift + exponent.getD 0))

def digits? (s : List Char) : Option (List Char × List Char) :=
  let digits := s.takeWhile Char.isDigit
  if digits.isEmpty then none else some (digits, s.dropWhile Char.isDigit)

def whole? (s : List Char) : Option (List Char × List Char) := do
  let (digits, rest) ← digits? s
  if digits.head? = some '0' ∧ 1 < digits.length then none else some (digits, rest)

def fraction? : List Char → Option (Option (List Char) × List Char)
  | '.' :: rest => (digits? rest).map fun (digits, rest) => (some digits, rest)
  | rest => some (none, rest)

def exponentDigits? (negative : Bool) (s : List Char) : Option (Option Int × List Char) :=
  (digits? s).map fun (digits, rest) =>
    let n : Int := digitsFrom 0 digits
    (some (if negative then -n else n), rest)

def exponentPart? : List Char → Option (Option Int × List Char)
  | [] => some (none, [])
  | c :: rest =>
    if c = 'e' ∨ c = 'E' then
      match rest with
      | '-' :: rest => exponentDigits? true rest
      | '+' :: rest => exponentDigits? false rest
      | rest => exponentDigits? false rest
    else some (none, c :: rest)

def number? (negative : Bool) (s : List Char) : Option (Node × List Char) := do
  let (whole, rest) ← whole? s
  let (fraction, rest) ← fraction? rest
  let (exponent, rest) ← exponentPart? rest
  some (numberNode negative whole fraction exponent, rest)

inductive Piece where
  | char (c : Char)
  | unit (code : Nat)

def hexValue? (c : Char) : Option Nat :=
  if c.isDigit then some (c.toNat - '0'.toNat)
  else if 'a' ≤ c ∧ c ≤ 'f' then some (c.toNat - 'a'.toNat + 10)
  else if 'A' ≤ c ∧ c ≤ 'F' then some (c.toNat - 'A'.toNat + 10)
  else none

def unit? (a b c d : Char) : Option Nat := do
  some (4096 * (← hexValue? a) + 256 * (← hexValue? b) + 16 * (← hexValue? c) + (← hexValue? d))

def simpleEscape? : Char → Option Char
  | '"' => some '"'
  | '\\' => some '\\'
  | '/' => some '/'
  | 'b' => some '\x08'
  | 'f' => some '\x0c'
  | 'n' => some '\n'
  | 'r' => some '\r'
  | 't' => some '\t'
  | _ => none

def pieces? : List Char → Option (List Piece × List Char)
  | [] => none
  | '"' :: rest => some ([], rest)
  | '\\' :: 'u' :: a :: b :: c :: d :: rest =>
    match unit? a b c d, pieces? rest with
    | some code, some (pieces, rest) => some (.unit code :: pieces, rest)
    | _, _ => none
  | '\\' :: c :: rest =>
    match simpleEscape? c, pieces? rest with
    | some c, some (pieces, rest) => some (.char c :: pieces, rest)
    | _, _ => none
  | c :: rest =>
    if c.toNat < 32 ∨ c = '\\' then none
    else (pieces? rest).map fun (pieces, rest) => (.char c :: pieces, rest)

def joinPieces : List Piece → Option (List Char)
  | [] => some []
  | .char c :: rest => (joinPieces rest).map (c :: ·)
  | .unit high :: .unit low :: rest =>
    if 0xD800 ≤ high ∧ high < 0xDC00 then
      if 0xDC00 ≤ low ∧ low < 0xE000 then
        (joinPieces rest).map
          (Char.ofNat (0x10000 + 0x400 * (high - 0xD800) + (low - 0xDC00)) :: ·)
      else none
    else if 0xDC00 ≤ high ∧ high < 0xE000 then none
    else (joinPieces (.unit low :: rest)).map (Char.ofNat high :: ·)
  | .unit code :: rest =>
    if 0xD800 ≤ code ∧ code < 0xE000 then none
    else (joinPieces rest).map (Char.ofNat code :: ·)

def string? (s : List Char) : Option (Option String × List Char) :=
  (pieces? s).map fun (pieces, rest) => ((joinPieces pieces).map String.ofList, rest)

def word? (word : String) (node : Node) (s : List Char) : Option (Node × List Char) :=
  if word.toList.isPrefixOf s then some (node, s.drop word.length) else none

mutual
def value? : Nat → List Char → Option (Node × List Char)
  | 0, _ => none
  | fuel + 1, s =>
    match skipSpace s with
    | [] => none
    | '"' :: rest => (string? rest).map fun
      | (some s, rest) => (.string s, rest)
      | (none, rest) => (.unreadable, rest)
    | '[' :: rest =>
      match skipSpace rest with
      | ']' :: rest => some (.array [], rest)
      | rest => (items? fuel rest).map fun (items, rest) => (.array items, rest)
    | '\x7b' :: rest =>
      match skipSpace rest with
      | '\x7d' :: rest => some (.object [], rest)
      | rest => (fields? fuel rest).map fun (fields, rest) => (.object fields, rest)
    | '-' :: rest => number? true rest
    | 'n' :: rest => word? "ull" .null rest
    | 't' :: rest => word? "rue" (.bool true) rest
    | 'f' :: rest => word? "alse" (.bool false) rest
    | rest => number? false rest
termination_by structural fuel => fuel

def items? : Nat → List Char → Option (List Node × List Char)
  | 0, _ => none
  | fuel + 1, s => do
    let (item, rest) ← value? fuel s
    match skipSpace rest with
    | ']' :: rest => some ([item], rest)
    | ',' :: rest =>
      let (items, rest) ← items? fuel rest
      some (item :: items, rest)
    | _ => none
termination_by structural fuel => fuel

def fields? : Nat → List Char → Option (List (Option String × Node) × List Char)
  | 0, _ => none
  | fuel + 1, s => do
    let '"' :: rest := skipSpace s | none
    let (key, rest) ← string? rest
    let ':' :: rest := skipSpace rest | none
    let (value, rest) ← value? fuel rest
    match skipSpace rest with
    | '\x7d' :: rest => some ([(key, value)], rest)
    | ',' :: rest =>
      let (fields, rest) ← fields? fuel rest
      some ((key, value) :: fields, rest)
    | _ => none
termination_by structural fuel => fuel
end

/-- The node of a whole JSON text. A value and the list around it are entered at most once for each
character, so twice the length of the text is fuel enough. -/
def node? (text : String) : Option Node :=
  let s := text.toList
  match value? (2 * s.length + 2) s with
  | some (node, rest) => if (skipSpace rest).isEmpty then some node else none
  | none => none

end ActionDispatch.Json
