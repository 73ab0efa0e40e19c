/-!
# Runs

A run is a computation that reports events on its way and ends in one of three ways: with a value,
with a failure, or unfinished because its allowance of steps is used up.
-/

set_option autoImplicit false

namespace ActionDispatch

inductive Outcome (ε α : Type) where
  | done (value : α)
  | failed (error : ε)
  | unfinished
deriving DecidableEq, Repr

structure Run (Event ε α : Type) where
  events : List Event
  outcome : Outcome ε α

namespace Run

variable {Event ε ε₂ α β : Type}

def done (value : α) : Run Event ε α :=
  ⟨[], .done value⟩

def fail (error : ε) : Run Event ε α :=
  ⟨[], .failed error⟩

def unfinished : Run Event ε α :=
  ⟨[], .unfinished⟩

def report (event : Event) : Run Event ε Unit :=
  ⟨[event], .done ()⟩

def ofExcept : Except ε α → Run Event ε α
  | .ok value => done value
  | .error error => fail error

def andThen (r : Run Event ε α) (next : α → Run Event ε β) : Run Event ε β :=
  match r.outcome with
  | .done value =>
    let rest := next value
    ⟨r.events ++ rest.events, rest.outcome⟩
  | .failed error => ⟨r.events, .failed error⟩
  | .unfinished => ⟨r.events, .unfinished⟩

instance : Monad (Run Event ε) where
  pure := done
  bind := andThen

def mapError (f : ε → ε₂) (r : Run Event ε α) : Run Event ε₂ α :=
  ⟨r.events, match r.outcome with
    | .done value => .done value
    | .failed error => .failed (f error)
    | .unfinished => .unfinished⟩

def settle (f : Except ε α → β) (r : Run Event ε α) : Run Event ε₂ β :=
  ⟨r.events, match r.outcome with
    | .done value => .done (f (.ok value))
    | .failed error => .done (f (.error error))
    | .unfinished => .unfinished⟩

def forEach (f : α → Run Event ε β) : List α → Run Event ε (List β)
  | [] => done []
  | a :: rest => do
    let b ← f a
    let bs ← forEach f rest
    return b :: bs

end Run

end ActionDispatch
