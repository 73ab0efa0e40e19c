/-!
# Markup characters

Escaping of the characters that mean something in XML.
-/

set_option autoImplicit false

namespace ActionDispatch.Text

def escapeMarkupChar : Char → List Char
  | '<' => "&lt;".toList
  | '>' => "&gt;".toList
  | '&' => "&amp;".toList
  | '\'' => "&apos;".toList
  | '"' => "&quot;".toList
  | c => [c]

def escapeMarkup (s : String) : String :=
  String.ofList (s.toList.flatMap escapeMarkupChar)

end ActionDispatch.Text
