import ActionDispatch.Decimal.Reading
import ActionDispatch.Script.Error
import ActionDispatch.Script.Expr
import ActionDispatch.Script.Nesting
import ActionDispatch.Text.Quoted

/-!
# Reading scripts

The grammar of scripts, from the loosest to the tightest level: `?:`, `||`, `&&`, `==` and `!=`,
`+`, `!`, and the suffixes of an operand. Chains associate to the left. An alternative that does not
fit is given up for the next; only the first operand of a text has to be there.

Every bracket and every `!` opens a level. A parser has an allowance of levels and gives up for good
where it is used up.
-/

set_option autoImplicit false

namespace ActionDispatch.Script

open Text

/-- What a parser makes of a text: something and the rest of the text, nothing, or no answer because
the text opens more levels than allowed. -/
inductive Reply (α : Type) where
  | accept (value : α) (rest : List Char)
  | refuse
  | tooDeep

namespace Reply

variable {α β : Type}

def andThen (r : Reply α) (next : α → List Char → Reply β) : Reply β :=
  match r with
  | .accept value rest => next value rest
  | .refuse => .refuse
  | .tooDeep => .tooDeep

def map (f : α → β) (r : Reply α) : Reply β :=
  r.andThen fun value rest => .accept (f value) rest

def closedBy (r : Reply α) (next : List Char → Option (List Char)) : Reply α :=
  r.andThen fun value rest =>
    match next rest with
    | some rest => .accept value rest
    | none => .refuse

end Reply

abbrev Parser (α : Type) := List Char → Reply α

def isSpace (c : Char) : Bool :=
  c = ' ' || c = '\t' || c = '\r' || c = '\n'

def skipSpace (s : List Char) : List Char :=
  s.dropWhile isSpace

def mark? (mark : String) (s : List Char) : Option (List Char) :=
  (after? mark.toList (skipSpace s)).map skipSpace

def startsName (c : Char) : Bool :=
  isAlphabetic c || c = '_' || c = '$'

def continuesName (c : Char) : Bool :=
  isAlphanumeric c || c = '_' || c = '$'

def name? : List Char → Option (String × List Char)
  | [] => none
  | c :: rest =>
    if startsName c then
      some (String.ofList (c :: rest.takeWhile continuesName), rest.dropWhile continuesName)
    else none

def member? (s : List Char) : Option (Bool × String × List Char) :=
  match mark? "?." s with
  | some rest => (name? rest).map fun (name, rest) => (true, name, rest)
  | none =>
    match mark? "." s with
    | some rest => (name? rest).map fun (name, rest) => (false, name, rest)
    | none => none

def unescape : Char → Char
  | 'n' => '\n'
  | 't' => '\t'
  | 'r' => '\r'
  | c => c

def quotedContent? (quote : Char) : List Char → Option (List Char × List Char)
  | [] => none
  | ['\\'] => none
  | '\\' :: c :: rest =>
    (quotedContent? quote rest).map fun (content, rest) => (unescape c :: content, rest)
  | c :: rest =>
    if c = quote then some ([], rest)
    else (quotedContent? quote rest).map fun (content, rest) => (c :: content, rest)

def string? (quote : Char) (s : List Char) : Option (List Char × List Char) :=
  match (after? [quote, quote] s).bind (cut? [quote, quote, quote]) with
  | some found => some found
  | none => quotedContent? quote s

def digits? (s : List Char) : Option (List Char × Option (List Char) × List Char) :=
  let whole := s.takeWhile Char.isDigit
  if whole.isEmpty then none
  else
    match s.dropWhile Char.isDigit with
    | '.' :: rest =>
      let fraction := rest.takeWhile Char.isDigit
      if fraction.isEmpty then some (whole, none, '.' :: rest)
      else some (whole, some fraction, rest.dropWhile Char.isDigit)
    | rest => some (whole, none, rest)

def number? (negative : Bool) (s : List Char) : Option (Value × List Char) :=
  match digits? s with
  | none => none
  | some (whole, some fraction, rest) =>
    let x := Decimal.rounded (Decimal.digitsFrom 0 (whole ++ fraction)) (-fraction.length)
    some (.float (if negative then -x else x), rest)
  | some (whole, none, rest) =>
    (Decimal.integer? (if negative then '-' :: whole else whole)).map fun n => (.int n, rest)

abbrev Joint := Expr → Expr → Expr

abbrev JointParser := List Char → Option (Joint × List Char)

def joint? (mark : String) (join : Joint) : JointParser := fun s =>
  (mark? mark s).map fun rest => (join, rest)

def elvisJoint? : JointParser := joint? "?:" .elvis

def orJoint? : JointParser := joint? "||" (.binary .or)

def andJoint? : JointParser := joint? "&&" (.binary .and)

def equalityJoint? : JointParser := fun s =>
  match joint? "==" (.binary .eq) s with
  | some found => some found
  | none => joint? "!=" (.binary .ne) s

def addJoint? : JointParser := joint? "+" (.binary .add)

def chainFrom (joint? : JointParser) (operand : Parser Expr) : Nat → Expr → Parser Expr
  | 0, left, s => .accept left s
  | steps + 1, left, s =>
    match joint? s with
    | none => .accept left s
    | some (join, rest) =>
      match operand rest with
      | .accept right rest => chainFrom joint? operand steps (join left right) rest
      | .refuse => .accept left s
      | .tooDeep => .tooDeep

def chain (joint? : JointParser) (operand : Parser Expr) : Parser Expr := fun s =>
  (operand s).andThen fun left rest => chainFrom joint? operand rest.length left rest

def binaries (unary : Parser Expr) : Parser Expr :=
  chain elvisJoint?
    (chain orJoint? (chain andJoint? (chain equalityJoint? (chain addJoint? unary))))

def itemsFrom (item : Parser Expr) : Nat → Parser (List Expr)
  | 0, s => .accept [] s
  | steps + 1, s =>
    match mark? "," s with
    | none => .accept [] s
    | some rest =>
      match item rest with
      | .accept first rest => (itemsFrom item steps rest).map (first :: ·)
      | .refuse => .accept [] s
      | .tooDeep => .tooDeep

def items (item : Parser Expr) : Parser (List Expr) := fun s =>
  match item s with
  | .accept first rest => (itemsFrom item rest.length rest).map (first :: ·)
  | .refuse => .accept [] s
  | .tooDeep => .tooDeep

def arguments (nested : Parser Expr) : Parser (List Expr) := fun s =>
  match mark? "(" s with
  | none => .refuse
  | some rest => (items nested rest).closedBy (mark? ")")

def position (nested : Parser Expr) : Parser Expr := fun s =>
  match mark? "[" s with
  | none => .refuse
  | some rest => (nested rest).closedBy (mark? "]")

def named (nested : Parser Expr) : Parser Expr := fun s =>
  match name? s with
  | none => .refuse
  | some ("true", rest) => .accept (.literal (.bool true)) rest
  | some ("false", rest) => .accept (.literal (.bool false)) rest
  | some ("null", rest) => .accept (.literal .null) rest
  | some (name, rest) =>
    match arguments nested rest with
    | .accept args rest => .accept (.call name args) rest
    | .refuse => .accept (.name name) rest
    | .tooDeep => .tooDeep

def literal (found : Option (Value × List Char)) : Reply Expr :=
  match found with
  | some (value, rest) => .accept (.literal value) rest
  | none => .refuse

def primary (nested : Parser Expr) : Parser Expr
  | [] => .refuse
  | c :: rest =>
    if c.isDigit then literal (number? false (c :: rest))
    else if c = '-' then literal (number? true rest)
    else if c = '"' ∨ c = '\'' then
      literal ((string? c rest).map fun (content, rest) => (.string (String.ofList content), rest))
    else if c = '[' then
      ((items nested (skipSpace rest)).closedBy (mark? "]")).map .list
    else if c = '(' then (nested (skipSpace rest)).closedBy (mark? ")")
    else named nested (c :: rest)

def suffixesFrom (nested : Parser Expr) : Nat → Expr → Parser Expr
  | 0, target, s => .accept target s
  | steps + 1, target, s =>
    match member? s with
    | some (safe, member, rest) =>
      match arguments nested rest with
      | .accept args rest => suffixesFrom nested steps (.invoke target member args safe) rest
      | .refuse => suffixesFrom nested steps (.property target member safe) rest
      | .tooDeep => .tooDeep
    | none =>
      match position nested s with
      | .accept place rest => suffixesFrom nested steps (.index target place) rest
      | .refuse => .accept target s
      | .tooDeep => .tooDeep

def postfixed (nested : Parser Expr) : Parser Expr := fun s =>
  (primary nested (skipSpace s)).andThen fun target rest =>
    let rest := skipSpace rest
    suffixesFrom nested rest.length target rest

def unaryOver (negated nested : Parser Expr) : Parser Expr := fun s =>
  match mark? "!" s with
  | some rest => (negated rest).map .not
  | none => postfixed nested s

def unary : Nat → Parser Expr
  | 0 => unaryOver (fun _ => .tooDeep) (fun _ => .tooDeep)
  | levels + 1 => unaryOver (unary levels) (binaries (unary levels))

def expression (levels : Nat) : Parser Expr :=
  binaries (unary levels)

def failure (s rest : List Char) (missing : String) : ScriptError :=
  .parse (String.ofList (trim s) ++ ": Parsing Error: Error \x7b input: " ++ quoted rest
    ++ ", code: " ++ missing ++ " \x7d")

def tooNested (depth : Nat) : ScriptError :=
  .parse ("expression nested too deeply (" ++ toString depth ++ " levels, limit "
    ++ toString maxNesting ++ ")")

def parseWithin (levels : Nat) (s : List Char) : Except ScriptError Expr :=
  let s' := skipSpace s
  match expression levels s' with
  | .accept e rest =>
    match skipSpace rest with
    | [] => .ok e
    | rest => .error (failure s rest "Eof")
  | .refuse => .error (failure s s' "TakeWhile1")
  | .tooDeep => .error (tooNested levels)

/-- The tree of a script. A text opens fewer levels than it has characters. -/
def parse (text : String) : Except ScriptError Expr :=
  let s := text.toList
  let depth := nesting s
  if maxNesting < depth then .error (tooNested depth)
  else parseWithin s.length s

end ActionDispatch.Script
