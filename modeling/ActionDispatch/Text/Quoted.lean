import ActionDispatch.Text.Character

/-!
# Quoted text in messages

A text between double quotes, with escapes for quotes, backslashes and every character that would
not show.
-/

set_option autoImplicit false

namespace ActionDispatch.Text

def codeEscape (c : Char) : List Char :=
  ['\\', 'u', '\x7b'] ++ Nat.toDigits 16 c.toNat ++ ['\x7d']

def quoteChar (c : Char) : List Char :=
  match c with
  | '\x00' => ['\\', '0']
  | '\t' => ['\\', 't']
  | '\r' => ['\\', 'r']
  | '\n' => ['\\', 'n']
  | '\\' => ['\\', '\\']
  | '"' => ['\\', '"']
  | c => if extendsGrapheme c || !isPrintable c then codeEscape c else [c]

def quoted (s : List Char) : String :=
  String.ofList ('"' :: s.flatMap quoteChar ++ ['"'])

end ActionDispatch.Text
