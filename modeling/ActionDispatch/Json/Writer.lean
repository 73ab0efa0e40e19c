import ActionDispatch.Decimal.Layout
import ActionDispatch.Json.Basic

/-!
# Writing JSON

Compact text, and text indented by two spaces a level. Numbers keep the fewest digits that read
back; what is no finite number is written as null.
-/

set_option autoImplicit false

namespace ActionDispatch.Json

open Decimal

def numberLayout : Layout := ⟨.even, some (-5, 15), true, "null", "null"⟩

def escapeChar (c : Char) : List Char :=
  if c = '"' then ['\\', '"']
  else if c = '\\' then ['\\', '\\']
  else if c = '\x08' then ['\\', 'b']
  else if c = '\x0c' then ['\\', 'f']
  else if c = '\n' then ['\\', 'n']
  else if c = '\r' then ['\\', 'r']
  else if c = '\t' then ['\\', 't']
  else if c.toNat < 32 then
    ['\\', 'u', '0', '0', if c.toNat < 16 then '0' else '1', Nat.digitChar (c.toNat % 16)]
  else [c]

def stringText (s : String) : String :=
  String.ofList ('"' :: s.toList.flatMap escapeChar ++ ['"'])

def floatText (x : Float) : String :=
  if x.isFinite then numberLayout.write x else "null"

def boolText (b : Bool) : String :=
  if b then "true" else "false"

def bracketed (opening closing : String) (entries : List String) : String :=
  opening ++ String.intercalate "," entries ++ closing

mutual
def compact : Json → String
  | .null => "null"
  | .bool b => boolText b
  | .int n => toString n
  | .float x => floatText x
  | .string s => stringText s
  | .array items => bracketed "[" "]" (compactItems items)
  | .object fields => bracketed "\x7b" "\x7d" (compactFields fields)
termination_by structural j => j

def compactItems : List Json → List String
  | [] => []
  | item :: rest => item.compact :: compactItems rest
termination_by structural items => items

def compactFields : List (String × Json) → List String
  | [] => []
  | (key, value) :: rest => (stringText key ++ ":" ++ value.compact) :: compactFields rest
termination_by structural fields => fields
end

def indentation (level : Nat) : String :=
  String.ofList ('\n' :: List.replicate (2 * level) ' ')

def bracketedLines (opening closing : String) (level : Nat) (entries : List String) : String :=
  if entries.isEmpty then opening ++ closing
  else
    let inner := indentation (level + 1)
    opening ++ inner ++ String.intercalate ("," ++ inner) entries ++ indentation level ++ closing

mutual
def prettyAt (level : Nat) : Json → String
  | .null => "null"
  | .bool b => boolText b
  | .int n => toString n
  | .float x => floatText x
  | .string s => stringText s
  | .array items => bracketedLines "[" "]" level (prettyItems (level + 1) items)
  | .object fields => bracketedLines "\x7b" "\x7d" level (prettyFields (level + 1) fields)
termination_by structural j => j

def prettyItems (level : Nat) : List Json → List String
  | [] => []
  | item :: rest => item.prettyAt level :: prettyItems level rest
termination_by structural items => items

def prettyFields (level : Nat) : List (String × Json) → List String
  | [] => []
  | (key, value) :: rest =>
    (stringText key ++ ": " ++ value.prettyAt level) :: prettyFields level rest
termination_by structural fields => fields
end

def pretty (j : Json) : String :=
  j.prettyAt 0

end ActionDispatch.Json
