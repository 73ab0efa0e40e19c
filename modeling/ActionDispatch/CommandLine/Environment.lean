import ActionDispatch.Table
import ActionDispatch.Text.Character
import ActionDispatch.Text.Trim

/-!
# Environment files

A file of assignments `name=value`, one a line. It gives values to variables that have none yet, up
to its first line that cannot be read. Values may be quoted; outside of single quotes a dollar sign
stands for the value of a variable.
-/

set_option autoImplicit false

namespace ActionDispatch.CommandLine

abbrev Environment := String → Option String

namespace Environment

inductive Place where
  | text (quoted : Bool)
  | escaped (quoted : Bool)
  | literal
  | variable (quoted : Bool) (name : List Char)
  | braced (quoted : Bool) (name : List Char)
  | ended
deriving DecidableEq, Repr

/-- The value under a name. An environment is known by its assignments, so that the equals sign
behind a variable may also be taken as a part of a name: where `A` is `B=c`, the value under `A=B`
is `c`. -/
def find? (environment : Environment) (name : List Char) : Option (List Char) :=
  match name.takeWhile (· ≠ '='), name.dropWhile (· ≠ '=') with
  | name, [] => (environment (String.ofList name)).map String.toList
  | name, _ :: start => do
    let value ← environment (String.ofList name)
    (start ++ ['=']).isPrefixOf? value.toList

def resolve (environment : Environment) (name : List Char) : List Char :=
  (environment.find? name).getD []

def unescape? : Char → Option Char
  | 'n' => some '\n'
  | c => if c = '\\' ∨ c = '\'' ∨ c = '"' ∨ c = '$' ∨ c = ' ' then some c else none

def step? (environment : Environment) (place : Place) (c : Char) : Option (List Char × Place) :=
  match place with
  | .text quoted =>
    if c = '$' then some ([], .variable quoted [])
    else if c = '\\' then some ([], .escaped quoted)
    else if c = '"' then some ([], .text !quoted)
    else if quoted then some ([c], .text true)
    else if c = '\'' then some ([], .literal)
    else if c = ' ' ∨ c = '\t' then some ([], .ended)
    else some ([c], .text false)
  | .escaped quoted => (unescape? c).map fun c => ([c], .text quoted)
  | .literal => if c = '\'' then some ([], .text false) else some ([c], .literal)
  | .variable quoted name =>
    if Text.isAlphanumeric c then some ([], .variable quoted (name ++ [c]))
    else if c = '\x7b' ∧ name = [] then some ([], .braced quoted [])
    else if c = '$' then some (resolve environment name, .variable quoted [])
    else some (resolve environment name ++ [c], .text quoted)
  | .braced quoted name =>
    if c = '\x7d' then some (resolve environment name, .text quoted)
    else some ([], .braced quoted (name ++ [c]))
  | .ended => if c = ' ' ∨ c = '\t' then some ([], .ended) else none

def finish? (environment : Environment) : Place → Option (List Char)
  | .text quoted => if quoted then none else some []
  | .escaped quoted => if quoted then none else some []
  | .literal => none
  | .variable quoted name => if quoted then none else some (resolve environment name)
  | .braced _ _ => none
  | .ended => some []

def value? (environment : Environment) (place : Place) : List Char → Option (List Char)
  | [] => finish? environment place
  | c :: rest =>
    if place = .ended ∧ c = '#' then some []
    else do
      let (added, place) ← step? environment place c
      let more ← value? environment place rest
      return added ++ more

def isNameChar (c : Char) : Bool :=
  c.isAlphanum || c = '_' || c = '.'

def name? (line : List Char) : Option (List Char × List Char) :=
  match line with
  | [] => none
  | c :: _ =>
    if c.isAlpha || c = '_' then
      some (line.takeWhile isNameChar, Text.trimLeft (line.dropWhile isNameChar))
    else none

def target? (line : List Char) : Option (List Char × List Char) := do
  match ← name? line with
  | (name, '=' :: rest) => return (name, rest)
  | (name, rest) =>
    if name = "export".toList then
      match ← name? rest with
      | (name, '=' :: rest) => return (name, rest)
      | _ => none
    else none

def isBlank (line : List Char) : Bool :=
  line.isEmpty || line.head? = some '#'

def assignment? (environment : Environment) (line : List Char) :
    Option (Option (String × String)) :=
  let line := Text.trim line
  if isBlank line then some none
  else do
    let (name, rest) ← target? line
    let rest := Text.trimLeft rest
    let value ← if isBlank rest then some [] else value? environment (.text false) rest
    return some (String.ofList name, String.ofList value)

def supply (environment : Environment) (name value : String) : Environment := fun other =>
  (environment other).or (if other = name then some value else none)

def readLines (environment : Environment) : List (List Char) → Environment
  | [] => environment
  | line :: rest =>
    match assignment? environment line with
    | none => environment
    | some none => readLines environment rest
    | some (some (name, value)) => readLines (environment.supply name value) rest

def read (environment : Environment) (file : String) : Environment :=
  readLines environment (file.toList.splitOn '\n')

def filesFrom : List String → List String
  | [] => ["/.env"]
  | name :: rest =>
    String.join ((rest.reverse ++ [name, ".env"]).map fun name => "/" ++ name) :: filesFrom rest

def files (directory : String) : List String :=
  filesFrom ((directory.splitOn "/").filter (· ≠ "")).reverse

end Environment

end ActionDispatch.CommandLine
