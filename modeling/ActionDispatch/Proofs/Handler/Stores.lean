import ActionDispatch.Handler.Basic
import ActionDispatch.Query.Store

/-!
# Handlers with a record store

What a handler selects is what its store answers to the normalised text. A single row that is asked
for and not found is null; rows that are asked for and not answered are null as well, for whatever
reason.
-/

set_option autoImplicit false

namespace ActionDispatch.Handler
open Query Text

variable {h : Handler} {store : RecordStore} {query : String}

theorem selectOne_store (hstore : h.services.queries = store.engine)
    (hq : isBlankText query.toList = false) (params : List Value) :
    (h.selectOne query params).outcome =
      match store.create (Query.normalize query) with
      | .error error => .failed (.query error)
      | .ok handle =>
        match (handle.bind h.bindings params).one with
        | .ok value => .done value
        | .error .noResult => .done .null
        | .error error => .failed (.query error) := by
  obtain ⟨services, request, context, bindings⟩ := h
  obtain ⟨settings, action?, controllers, queries, property?, title?⟩ := services
  obtain rfl : queries = store.engine := hstore
  have hcreate : store.engine.create (Query.normalize query) =
      store.create (Query.normalize query) := rfl
  simp only [selectOne, hq, prepare, hcreate]
  cases store.create (Query.normalize query) with
  | error error => rfl
  | ok handle =>
    have hone : store.engine.one (store.engine.bind handle bindings params) =
        (handle.bind bindings params).one := rfl
    show (askOne store.engine (store.engine.bind handle bindings params)).outcome = _
    simp only [askOne, hone]
    rcases (handle.bind bindings params).one with (_ | _) | _ <;> rfl

theorem fetchAll_store (hstore : h.services.queries = store.engine) (params : List Value) :
    (h.fetchAll query params).outcome =
      match store.create (Query.normalize query) >>=
        fun handle => (handle.bind h.bindings params).execute with
      | .ok rows => .done rows
      | .error error => .failed error := by
  obtain ⟨services, request, context, bindings⟩ := h
  obtain ⟨settings, action?, controllers, queries, property?, title?⟩ := services
  obtain rfl : queries = store.engine := hstore
  have hcreate : store.engine.create (Query.normalize query) =
      store.create (Query.normalize query) := rfl
  simp only [fetchAll, prepare, hcreate]
  cases store.create (Query.normalize query) with
  | error error => rfl
  | ok handle =>
    have hall : store.engine.all (store.engine.bind handle bindings params) =
        (handle.bind bindings params).execute := rfl
    show (Run.ofExcept (store.engine.all (store.engine.bind handle bindings params))).outcome = _
    rw [hall]
    show _ = match (handle.bind bindings params).execute with
      | .ok rows => Outcome.done rows
      | .error error => .failed error
    cases (handle.bind bindings params).execute <;> rfl

theorem selectAll_store (hstore : h.services.queries = store.engine)
    (hq : isBlankText query.toList = false) (params : List Value) :
    (h.selectAll query params).outcome =
      .done (match store.create (Query.normalize query) >>= fun handle =>
          (handle.bind h.bindings params).execute with
        | .ok rows => .list rows
        | .error _ => .null) := by
  simp only [selectAll, hq, Bool.false_eq_true, if_false, Run.settle, fetchAll_store hstore]
  rcases store.create (Query.normalize query) >>=
    fun handle => (handle.bind h.bindings params).execute with
    (_ | _) | _ <;> rfl

end ActionDispatch.Handler
