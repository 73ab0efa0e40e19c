import ActionDispatch.Text.Trim

/-!
# Query texts
-/

set_option autoImplicit false

namespace ActionDispatch.Query

def startsWithSelect (text : List Char) : Bool :=
  "select ".toList.isPrefixOf (text.map Char.toLower)

def normalize (text : String) : String :=
  let text := Text.strip text
  if startsWithSelect text.toList then text else "SELECT " ++ text

end ActionDispatch.Query
