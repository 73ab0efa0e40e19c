import ActionDispatch.Decimal.Bounds
import ActionDispatch.Decimal.Reading
import ActionDispatch.Query.Error
import ActionDispatch.Text.Trim
import ActionDispatch.Value.Basic

/-!
# Conditions of queries

A condition compares a field path of the queried row with an operand: a named parameter `:name`, a
positional parameter `?1`, or a literal. Conditions are joined by `AND`.
-/

set_option autoImplicit false

namespace ActionDispatch.Query

open Text

inductive Operand where
  | named (name : String)
  | positional (position : Nat)
  | literal (value : Value)

structure Condition where
  path : List String
  negated : Bool
  operand : Operand

/-- Whether a character is a letter of a keyword, in either case. The long s is an s. -/
def isLetter (letter c : Char) : Bool :=
  c.toLower = letter || (letter = 's' && c = 'ſ')

def afterKeyword? : List Char → List Char → Option (List Char)
  | [], s => some s
  | _ :: _, [] => none
  | letter :: word, c :: s => if isLetter letter c then afterKeyword? word s else none

def afterBlank? : List Char → Option (List Char)
  | [] => none
  | c :: s => if isBlank c then some (trimLeft s) else none

def afterSpacedKeyword? (word : String) (s : List Char) : Option (List Char) :=
  ((afterBlank? s).bind (afterKeyword? word.toList)).bind afterBlank?

def isPathChar (c : Char) : Bool :=
  isWordChar c || c = '.'

def pathNames (s : List Char) : List String :=
  (s.splitOn '.').map String.ofList

def quotedText? : List Char → Option (List Char)
  | [] | [_] => none
  | first :: rest =>
    if (first = '\'' ∨ first = '"') ∧ rest.getLast? = some first then some rest.dropLast else none

def position? (digits : List Char) : Option Nat :=
  match Decimal.natural? digits with
  | some n => if 0 < n ∧ n < Decimal.wordLimit then some n else none
  | none => none

def literal? (s : List Char) : Option Value :=
  if s = "null".toList then some .null
  else if s = "true".toList then some (.bool true)
  else if s = "false".toList then some (.bool false)
  else
    match quotedText? s with
    | some text => some (.string (String.ofList text))
    | none =>
      match Decimal.integer? s with
      | some n => some (.int n)
      | none => (Decimal.float? s).map .float

def Operand.parse (s : List Char) : Except QueryError Operand :=
  let literal : Except QueryError Operand :=
    match literal? s with
    | some value => .ok (.literal value)
    | none => .error (.invalid ("unsupported operand: " ++ String.ofList s))
  match s with
  | ':' :: name =>
    if !name.isEmpty && name.all isWordChar then .ok (.named (String.ofList name)) else literal
  | '?' :: digits =>
    if !digits.isEmpty && digits.all isDecimalDigit then
      match position? digits with
      | some n => .ok (.positional n)
      | none => .error (.invalid ("bad positional parameter: " ++ String.ofList s))
    else literal
  | _ => literal

structure Comparison where
  rowName : List Char
  path : List Char
  negated : Bool
  operand : List Char

def operator? : List Char → Option (Bool × List Char)
  | '!' :: '=' :: rest => some (true, rest)
  | '=' :: rest => some (false, rest)
  | _ => none

def Comparison.parse? (s : List Char) : Option Comparison :=
  let s := trimLeft s
  let rowName := s.takeWhile isWordChar
  match s.dropWhile isWordChar with
  | '.' :: rest =>
    let path := rest.takeWhile isPathChar
    match operator? (trimLeft (rest.dropWhile isPathChar)) with
    | some (negated, rest) =>
      let operand := trim rest
      if rowName.isEmpty || path.isEmpty || operand.isEmpty then none
      else some ⟨rowName, path, negated, operand⟩
    | none => none
  | _ => none

def Condition.parse (rowName : List Char) (s : List Char) : Except QueryError Condition :=
  match Comparison.parse? s with
  | none => .error (.invalid ("unsupported condition: " ++ String.ofList s))
  | some c =>
    if c.rowName ≠ rowName then
      .error
        (.invalid ("unknown alias '" ++ String.ofList c.rowName ++ "' in: " ++ String.ofList s))
    else (Operand.parse c.operand).map fun operand => ⟨pathNames c.path, c.negated, operand⟩

theorem length_afterKeyword? {word s rest : List Char} (h : afterKeyword? word s = some rest) :
    rest.length ≤ s.length := by
  fun_induction afterKeyword? word s with
  | case1 s => simp_all
  | case2 => simp at h
  | case3 letter word c s _ ih => exact Nat.le_succ_of_le (ih h)
  | case4 => simp at h

theorem length_afterBlank? {s rest : List Char} (h : afterBlank? s = some rest) :
    rest.length < s.length := by
  cases s with
  | nil => simp [afterBlank?] at h
  | cons c s =>
    rw [afterBlank?] at h
    split at h
    · obtain rfl := Option.some.inj h
      exact Nat.lt_succ_of_le ((List.dropWhile_sublist _).length_le)
    · simp at h

theorem length_afterSpacedKeyword? {word : String} {s rest : List Char}
    (h : afterSpacedKeyword? word s = some rest) : rest.length < s.length := by
  obtain ⟨b, hb, h3⟩ := Option.bind_eq_some_iff.1 h
  obtain ⟨a, h1, h2⟩ := Option.bind_eq_some_iff.1 hb
  have := length_afterBlank? h1
  have := length_afterKeyword? h2
  have := length_afterBlank? h3
  omega

def extendFirst (c : Char) : List (List Char) → List (List Char)
  | [] => [[c]]
  | part :: parts => (c :: part) :: parts

def conjuncts : List Char → List (List Char)
  | [] => [[]]
  | c :: s =>
    match _h : afterSpacedKeyword? "and" (c :: s) with
    | some rest => [] :: conjuncts rest
    | none => extendFirst c (conjuncts s)
termination_by s => s.length
decreasing_by
  · exact length_afterSpacedKeyword? _h
  · exact Nat.lt_succ_self _

def Condition.parseAll (rowName : List Char) (s : List Char) : Except QueryError (List Condition) :=
  (conjuncts (trim s)).mapM (Condition.parse rowName)

end ActionDispatch.Query
