import Mathlib.Data.List.Chain
import Mathlib.Logic.Relation
import ActionDispatch.Handler.Services
import ActionDispatch.Expression
import ActionDispatch.Proofs.Text.Trim

/-!
# References between named actions

A definition refers to other actions by name: an `action:` expression to one, a group to all of its
members. The chains of a length are all ways to follow so many references, in the order in which the
references stand in the definitions.
-/

set_option autoImplicit false

namespace ActionDispatch

def Definition.references : Definition → List String
  | .method _ _ => []
  | .group names => (names.map Text.strip).filter fun name => !name.isEmpty
  | .expression text =>
    if (Expression.parse text).kind = .action then [Text.strip (Expression.parse text).body] else []

theorem Group.foldl_add (group : Group) (names : List String) :
    names.foldl Group.add group =
      ⟨group.actions ++ (names.map Text.strip).filter fun name => !name.isEmpty⟩ := by
  induction names generalizing group with
  | nil => simp
  | cons name rest ih =>
    rw [List.foldl_cons, ih]
    by_cases hb : (Text.strip name).isEmpty
    · simp [Group.add, hb]
    · simp [Group.add, hb]

theorem Group.ofNames_actions (names : List String) :
    (Group.ofNames names).actions = (Definition.group names).references := by
  rw [Group.ofNames, Group.foldl_add]
  rfl

namespace Services

variable (services : Services)

def references (name : String) : List String :=
  match services.action? name with
  | none => []
  | some definition => definition.references

/-- The names on every way to follow `n` references from an action, depth first and from left to
right. -/
def chains : (n : Nat) → String → List (List String)
  | 0, name => [[name]]
  | n + 1, name => ((services.references name).flatMap (chains n)).map (name :: ·)

end Services

end ActionDispatch
