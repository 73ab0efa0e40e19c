import ActionDispatch.Text.Character

/-!
# Trimming and searching

Removing white space from the ends of a text, and finding one text inside another.
-/

set_option autoImplicit false

namespace ActionDispatch.Text

def trimLeft (s : List Char) : List Char :=
  s.dropWhile isBlank

def trimRight (s : List Char) : List Char :=
  (s.reverse.dropWhile isBlank).reverse

def trim (s : List Char) : List Char :=
  trimLeft (trimRight s)

def strip (s : String) : String :=
  String.ofList (trim s.toList)

def isBlankText (s : List Char) : Bool :=
  s.all isBlank

def after? : List Char → List Char → Option (List Char)
  | [], s => some s
  | _ :: _, [] => none
  | p :: start, c :: s => if p = c then after? start s else none

def cut? (mark : List Char) : List Char → Option (List Char × List Char)
  | [] => (after? mark []).map fun rest => ([], rest)
  | c :: s =>
    match after? mark (c :: s) with
    | some rest => some ([], rest)
    | none => (cut? mark s).map fun (before, rest) => (c :: before, rest)

def contains (s part : List Char) : Bool :=
  (cut? part s).isSome

end ActionDispatch.Text
