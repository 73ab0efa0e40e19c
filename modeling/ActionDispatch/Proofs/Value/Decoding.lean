import ActionDispatch.Proofs.Decimal.Whole
import ActionDispatch.Proofs.Json.Decoding
import ActionDispatch.Value.Decoding

/-!
# Values read back

A value without queries comes back out of its tree, unless a float in it is no finite number.
-/

set_option autoImplicit false

namespace ActionDispatch.Value
open Json

mutual
def Plain : Value → Prop
  | .float x => x.isFinite = true
  | .list items => PlainItems items
  | .map fields => PlainFields fields
  | .query .. => False
  | _ => True
termination_by structural v => v

def PlainItems : List Value → Prop
  | [] => True
  | item :: rest => item.Plain ∧ PlainItems rest
termination_by structural items => items

def PlainFields : List (String × Value) → Prop
  | [] => True
  | (_, value) :: rest => value.Plain ∧ PlainFields rest
termination_by structural fields => fields
end

mutual
theorem plain_written : ∀ v : Value, v.Plain → ofJson v.written = v
  | .null, _ | .bool _, _ | .string _, _ => rfl
  | .int n, _ => by simp only [written, ofJson, ofInt, Decimal.int64_exact]
  | .float x, h => by
    have hfinite : x.isFinite = true := h
    simp only [written, floatJson, hfinite, if_true, ofJson]
  | .list items, h => by simp only [written, ofJson, plain_items items h]
  | .map fields, h => by simp only [written, ofJson, plain_fields fields h]
termination_by structural v => v

theorem plain_items : ∀ items : List Value, PlainItems items →
    itemsOfJson (itemsWritten items) = items
  | [], _ => rfl
  | item :: rest, h => by
    simp only [itemsWritten, itemsOfJson, plain_written item h.1, plain_items rest h.2]
termination_by structural items => items

theorem plain_fields : ∀ fields : List (String × Value), PlainFields fields →
    fieldsOfJson (fieldsWritten fields) = fields
  | [], _ => rfl
  | (key, value) :: rest, h => by
    simp only [fieldsWritten, fieldsOfJson, plain_written value h.1, plain_fields rest h.2]
termination_by structural fields => fields
end

theorem value_back (levels : Nat) {v : Value} (hp : v.Plain) (ho : Ordered v.written.parts) :
    Value.ofNode? levels v.written.toNode = if v.written.depth ≤ levels then some v else none := by
  rw [Value.ofNode?, tree_back levels v.written ho]
  split
  next => rw [Option.map_some, plain_written v hp]
  next => rfl

mutual
/-- Whole numbers in the tree of a value are numbers of 64 bits. -/
theorem integer_part (n : Int) : ∀ v : Value, .int n ∈ v.written.parts → ∃ m : Int64, n = m.toInt
  | .null, h | .bool _, h | .string _, h => by simp [written, parts] at h
  | .int m, h => ⟨m, by simpa [written, parts] using h⟩
  | .float x, h => by
    simp only [written, floatJson] at h
    split at h <;> simp [parts] at h
  | .list items, h => integer_items n items (by simpa [written, parts] using h)
  | .map fields, h => integer_fields n fields (by simpa [written, parts] using h)
  | .query model filter params, h => by
    refine integer_items n params ?_
    have hparams : .int n ∈ fieldParts (paramsField (itemsWritten params)) := by
      cases filter <;> simpa [written, parts, fieldParts, filterField] using h
    unfold paramsField at hparams
    split at hparams
    next => simp [fieldParts] at hparams
    next => simpa [fieldParts, parts] using hparams
termination_by structural v => v

theorem integer_items (n : Int) : ∀ items : List Value, .int n ∈ itemParts (itemsWritten items) →
    ∃ m : Int64, n = m.toInt
  | [], h => by simp [itemsWritten, itemParts] at h
  | item :: rest, h => by
    simp only [itemsWritten, itemParts, List.mem_append] at h
    exact h.elim (integer_part n item) (integer_items n rest)
termination_by structural items => items

theorem integer_fields (n : Int) : ∀ fields : List (String × Value),
    .int n ∈ fieldParts (fieldsWritten fields) → ∃ m : Int64, n = m.toInt
  | [], h => by simp [fieldsWritten, fieldParts] at h
  | (key, value) :: rest, h => by
    simp only [fieldsWritten, fieldParts, List.mem_append] at h
    exact h.elim (integer_part n value) (integer_fields n rest)
termination_by structural fields => fields
end

end ActionDispatch.Value
