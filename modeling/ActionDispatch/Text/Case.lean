import ActionDispatch.Text.Character
import ActionDispatch.Text.LowerCase
import ActionDispatch.Text.UpperCase

/-!
# Letter case

Full case mappings of texts. A capital sigma at the end of a word takes its final form in lower
case.
-/

set_option autoImplicit false

namespace ActionDispatch.Text

def mapCase (runs : List CaseRun) (expansions : List (Nat × List Nat)) (c : Char) : List Char :=
  match expansions.lookup c.toNat with
  | some codes => codes.map Char.ofNat
  | none => [((runs.findSome? (·.counterpart? c.toNat)).map Char.ofNat).getD c]

def upperChar (c : Char) : List Char :=
  if c.toNat < 128 then [c.toUpper] else mapCase upperRuns upperExpansions c

def lowerChar (c : Char) : List Char :=
  if c.toNat < 128 then [c.toLower] else mapCase lowerRuns lowerExpansions c

def isCased (c : Char) : Bool :=
  if c.toNat < 128 then c.isAlpha else inRuns casedRuns c

def isCaseIgnorable (c : Char) : Bool :=
  if c.toNat < 128 then ['\'', '.', ':', '^', '\x60'].contains c else inRuns caseIgnorableRuns c

def startsCased (s : List Char) : Bool :=
  match s.dropWhile isCaseIgnorable with
  | [] => false
  | c :: _ => isCased c

def upper (s : List Char) : List Char :=
  s.flatMap upperChar

def lowerFrom (before : List Char) : List Char → List Char
  | [] => []
  | c :: rest =>
    (if c = 'Σ' then [if startsCased before && !startsCased rest then 'ς' else 'σ']
      else lowerChar c) ++ lowerFrom (c :: before) rest

def lower (s : List Char) : List Char :=
  lowerFrom [] s

end ActionDispatch.Text
