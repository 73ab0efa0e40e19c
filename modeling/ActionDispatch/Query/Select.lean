import ActionDispatch.Query.Condition

/-!
# Select texts

`SELECT self.name FROM Order self WHERE self.state = :state AND self.total != ?1`: a path of the
alias, a model, an optional alias, which is `self` unless given, and optional conditions. Keywords
may be in any letter case. A word behind the model is an alias if the text can be read so.
-/

set_option autoImplicit false

namespace ActionDispatch.Query

open Text

def defaultName : List Char := "self".toList

structure Select where
  model : String
  projection : List String
  conditions : List Condition

structure Clauses where
  projection : List Char
  model : List Char
  rowName : Option (List Char)
  conditions : Option (List Char)

/-- The conditions behind `WHERE`, to the end of the text. Where nothing but white space follows,
the last character of it stands for the conditions if one is left in front of it. -/
def whereClause? (s : List Char) : Option (List Char) :=
  match (afterBlank? s).bind (afterKeyword? "where".toList) with
  | none => none
  | some rest =>
    match afterBlank? rest with
    | none => none
    | some body =>
      let body := trimRight body
      if !body.isEmpty then some body
      else if 2 ≤ rest.length then some (rest.drop (rest.length - 1))
      else none

def ending? (s : List Char) : Option (Option (List Char)) :=
  match whereClause? s with
  | some conditions => some (some conditions)
  | none => if isBlankText s then some none else none

def rowName? (s : List Char) : Option (List Char × List Char) :=
  match afterBlank? s with
  | none => none
  | some s =>
    let word := s.takeWhile isWordChar
    if word.isEmpty then none else some (word, s.dropWhile isWordChar)

def behindModel? (s : List Char) : Option (Option (List Char) × Option (List Char)) :=
  match (rowName? s).bind fun (word, rest) => (ending? rest).map fun e => (some word, e) with
  | some found => some found
  | none => (ending? s).map fun e => (none, e)

def pathWord? (s : List Char) : Option (List Char × List Char) :=
  let path := s.takeWhile isPathChar
  if path.isEmpty then none else some (path, s.dropWhile isPathChar)

def Clauses.parse? (s : List Char) : Option Clauses := do
  let rest ← (afterKeyword? "select".toList (trimLeft s)).bind afterBlank?
  let (projection, rest) ← pathWord? rest
  let rest ← afterSpacedKeyword? "from" rest
  let (model, rest) ← pathWord? rest
  let (rowName, conditions) ← behindModel? rest
  some ⟨projection, model, rowName, conditions⟩

def projectionPath? (rowName projection : List Char) : Option (List String) :=
  if projection = rowName then some []
  else (after? (rowName ++ ['.']) projection).map pathNames

def Select.parse (text : String) : Except QueryError Select :=
  match Clauses.parse? text.toList with
  | none => .error (.invalid text)
  | some clauses =>
    let rowName := clauses.rowName.getD defaultName
    match projectionPath? rowName clauses.projection with
    | none =>
      .error (.invalid ("unknown projection: " ++ String.ofList clauses.projection))
    | some projection =>
      let conditions := match clauses.conditions with
        | some conditions => Condition.parseAll rowName conditions
        | none => .ok []
      conditions.map fun conditions => ⟨String.ofList clauses.model, projection, conditions⟩

def Select.ofQuery (query : Query) : Except QueryError Select :=
  let filter := trim ((query.filter.getD "").toList)
  let conditions := if filter.isEmpty then .ok [] else Condition.parseAll defaultName filter
  conditions.map fun conditions => ⟨query.model, [], conditions⟩

end ActionDispatch.Query
