import ActionDispatch.Text.Alphabetic
import ActionDispatch.Text.Mark
import ActionDispatch.Text.Numeric
import ActionDispatch.Text.Unprintable
import ActionDispatch.Text.Word

/-!
# Character classes

The classes of characters that names, words, blanks and printed text are made of. Each class is
decided outright for the first 128 code points and by a table of runs beyond them. Words and their
digits are those of Unicode 16.0, all other classes those of Unicode 17.0.
-/

set_option autoImplicit false

namespace ActionDispatch.Text

def inRuns (runs : List (Nat × Nat)) (c : Char) : Bool :=
  runs.any fun run => decide (run.1 ≤ c.toNat) && decide (c.toNat ≤ run.2)

def isBlank (c : Char) : Bool :=
  if c.toNat < 128 then c == ' ' || (decide (9 ≤ c.toNat) && decide (c.toNat ≤ 13))
  else inRuns [(0x85, 0x85), (0xA0, 0xA0), (0x1680, 0x1680), (0x2000, 0x200A), (0x2028, 0x2029),
    (0x202F, 0x202F), (0x205F, 0x205F), (0x3000, 0x3000)] c

def isAlphabetic (c : Char) : Bool :=
  if c.toNat < 128 then c.isAlpha else inRuns alphabeticRuns c

def isNumeric (c : Char) : Bool :=
  if c.toNat < 128 then c.isDigit else inRuns numericRuns c

def isAlphanumeric (c : Char) : Bool :=
  isAlphabetic c || isNumeric c

def isDecimalDigit (c : Char) : Bool :=
  if c.toNat < 128 then c.isDigit else inRuns decimalRuns c

def isWordChar (c : Char) : Bool :=
  if c.toNat < 128 then c.isAlphanum || c == '_' else inRuns wordRuns c

def extendsGrapheme (c : Char) : Bool :=
  decide (128 ≤ c.toNat) && inRuns graphemeExtendRuns c

def isPrintable (c : Char) : Bool :=
  if c.toNat < 128 then decide (32 ≤ c.toNat) && decide (c.toNat < 127)
  else !inRuns unprintableRuns c

end ActionDispatch.Text
