/-!
# Tables

A table maps texts to values. Its entries stand in the order of their keys, so that two tables with
the same entries are equal.
-/

set_option autoImplicit false

namespace ActionDispatch

abbrev Table (α : Type) := List (String × α)

namespace Table

variable {α : Type}

def empty : Table α := []

def get? (t : Table α) (key : String) : Option α :=
  t.lookup key

def contains (t : Table α) (key : String) : Bool :=
  (t.get? key).isSome

def insert : Table α → String → α → Table α
  | [], key, value => [(key, value)]
  | (k, v) :: rest, key, value =>
    if key = k then (key, value) :: rest
    else if key < k then (key, value) :: (k, v) :: rest
    else (k, v) :: insert rest key value

def erase : Table α → String → Table α
  | [], _ => []
  | (k, v) :: rest, key => if key = k then rest else (k, v) :: erase rest key

def insertAll (t : Table α) (entries : List (String × α)) : Table α :=
  entries.foldl (fun t (key, value) => insert t key value) t

def ofList (entries : List (String × α)) : Table α :=
  insertAll empty entries

def keys (t : Table α) : List String :=
  t.map Prod.fst

def update (t : Table α) (key : String) (f : Option α → α) : Table α :=
  t.insert key (f (t.get? key))

end Table

end ActionDispatch
