/-!
# Files

What a path leads to: a text, or a reason why there is none. A directory of texts answers for every
path: a path is walked name by name from the directory, and the first name that leads nowhere
decides.
-/

set_option autoImplicit false

namespace ActionDispatch.CommandLine

inductive FileError where
  | missing
  | denied
  | misplaced
  | directory
  | tooLong
  | garbled
deriving DecidableEq, Repr

def FileError.message : FileError → String
  | .missing => "No such file or directory (os error 2)"
  | .denied => "Permission denied (os error 13)"
  | .misplaced => "Not a directory (os error 20)"
  | .directory => "Is a directory (os error 21)"
  | .tooLong => "File name too long (os error 36)"
  | .garbled => "stream did not contain valid UTF-8"

abbrev Files := String → Except FileError String

abbrev Directory := List (List String × String)

namespace Directory

inductive Spot where
  | file (text : String)
  | inside (way : List String)
  /-- A directory that holds the given one, about whose other contents nothing is known. -/
  | above
deriving DecidableEq, Repr

def nameLimit : Nat := 255

def pathLimit : Nat := 4095

def step (directory : Directory) (spot : Spot) (name : String) : Except FileError Spot :=
  match spot, name with
  | .file _, _ => .error .misplaced
  | spot, "" => .ok spot
  | spot, "." => .ok spot
  | .inside (_ :: way), ".." => .ok (.inside way)
  | .inside [], ".." => .ok .above
  | .above, ".." => .ok .above
  | .above, name => .error (if nameLimit < name.utf8ByteSize then .tooLong else .missing)
  | .inside way, name =>
    if nameLimit < name.utf8ByteSize then .error .tooLong
    else match directory.lookup (name :: way).reverse with
      | some text => .ok (.file text)
      | none =>
        if directory.any fun entry => (name :: way).reverse.isPrefixOf entry.1 then
          .ok (.inside (name :: way))
        else .error .missing

def read (directory : Directory) : Files := fun path =>
  if pathLimit < path.utf8ByteSize then .error .tooLong
  else do
    let start := if path.startsWith "/" then Spot.above else .inside []
    match ← (path.splitOn "/").foldlM directory.step start with
    | .file text => .ok text
    | _ => .error .directory

end Directory

end ActionDispatch.CommandLine
