import ActionDispatch.Template.Segment
import ActionDispatch.Text.Trim

/-!
# Filters of templates

An interpolation may end in a filter. `| text` shows the title of a field and `| e` shows nothing
for what does not count as true. Filters are expanded into script before a template is rendered; in
an XML document every interpolation is escaped on top of that.
-/

set_option autoImplicit false

namespace ActionDispatch.Template

open Text

inductive Filter where
  | text
  | empty
deriving DecidableEq, Repr

def formatterName : String := "__fmt__"

def Filter.ofName? (name : List Char) : Option Filter :=
  if name = "text".toList then some .text
  else if name = "e".toList then some .empty
  else none

/-- The expression and the filter behind the last bar of a body. Two bars are an operator. -/
def splitFilter? (body : List Char) : Option (List Char × Filter) :=
  let backwards := body.reverse
  let name := (backwards.takeWhile (· ≠ '|')).reverse
  match backwards.dropWhile (· ≠ '|') with
  | [] => none
  | _ :: before =>
    if before.head? = some '|' then none
    else (Filter.ofName? (trim name)).map fun filter => (trim before.reverse, filter)

def rootedPath? (expr : List Char) : Option (List Char × List Char) :=
  let root := expr.takeWhile isWordChar
  let rest := match expr.dropWhile isWordChar with
    | '?' :: rest => rest
    | rest => rest
  match rest with
  | '.' :: path =>
    if root.isEmpty || path.isEmpty || path.contains '\n' then none else some (root, path)
  | _ => none

def expandFilter (body : List Char) : List Char :=
  match splitFilter? body with
  | some (expr, .text) =>
    match rootedPath? expr with
    | some (root, path) =>
      formatterName.toList ++ ".text(".toList ++ root ++ ", '".toList ++ path ++ "')".toList
    | none => formatterName.toList ++ ".text('".toList ++ expr ++ "')".toList
  | some (expr, .empty) => '(' :: expr ++ ") ?: ''".toList
  | none => body

def expand (xml : Bool) (body : List Char) : List Char :=
  let script := expandFilter body
  if xml then formatterName.toList ++ ".escape(".toList ++ script ++ [')'] else script

def isXml (s : List Char) : Bool :=
  "<?xml".toList.isPrefixOf (trimLeft s)

def Segment.expanded (xml : Bool) : Segment → Segment
  | .text s => .text s
  | .interpolation body => .interpolation (expand xml body)

def preprocess (xmlEscape : Bool) (template : String) : String :=
  let s := template.toList
  let xml := xmlEscape && isXml s
  String.ofList (join ((segments s).map (Segment.expanded xml)))

end ActionDispatch.Template
