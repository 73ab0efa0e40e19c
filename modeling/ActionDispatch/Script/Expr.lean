import ActionDispatch.Value.Basic

/-!
# Script expressions

The trees that scripts are read into.
-/

set_option autoImplicit false

namespace ActionDispatch.Script

inductive BinaryOp where
  | add
  | eq
  | ne
  | and
  | or
deriving DecidableEq, Repr

def BinaryOp.sign : BinaryOp → String
  | .add => "+"
  | .eq => "=="
  | .ne => "!="
  | .and => "&&"
  | .or => "||"

inductive Expr where
  | literal (value : Value)
  | list (items : List Expr)
  | name (name : String)
  | property (target : Expr) (member : String) (safe : Bool)
  | index (target position : Expr)
  | call (function : String) (args : List Expr)
  | invoke (target : Expr) (method : String) (args : List Expr) (safe : Bool)
  | not (operand : Expr)
  | binary (op : BinaryOp) (left right : Expr)
  | elvis (left right : Expr)
deriving Inhabited

end ActionDispatch.Script
