import ActionDispatch.Proofs.Value.Decoding

/-!
# Values by way of trees

The tree of any value holds whole numbers of 64 bits and finite floats only. Such a tree is the tree
of the value that it is read as, and this value is plain. So what comes back from a tree has the
tree that it came from, and is the value that went in just where that value is plain.
-/

set_option autoImplicit false

namespace ActionDispatch.Json

mutual
def Settled : Json → Prop
  | .int n => Decimal.InRange n
  | .float x => x.isFinite = true
  | .array items => SettledItems items
  | .object fields => SettledFields fields
  | _ => True
termination_by structural j => j

def SettledItems : List Json → Prop
  | [] => True
  | item :: rest => item.Settled ∧ SettledItems rest
termination_by structural items => items

def SettledFields : List (String × Json) → Prop
  | [] => True
  | (_, value) :: rest => value.Settled ∧ SettledFields rest
termination_by structural fields => fields
end

end ActionDispatch.Json

namespace ActionDispatch.Value
open Json

theorem settled_float (x : Float) : (floatJson x).Settled := by
  unfold floatJson
  split
  next hfinite => exact hfinite
  next => trivial

theorem settled_filter (filter : Option String) {fields : List (String × Json)} :
    SettledFields (filterField filter ++ fields) ↔ SettledFields fields := by
  cases filter <;> simp [filterField, SettledFields, Settled]

theorem settled_params {params : List Json} (h : SettledItems params) :
    SettledFields (paramsField params) := by
  unfold paramsField
  split
  next => trivial
  next => exact ⟨h, trivial⟩

mutual
theorem toJson_settled : ∀ v : Value, v.toJson.Settled
  | .null | .bool _ | .string _ => trivial
  | .int n => Decimal.inRange_int64 n
  | .float x => settled_float x
  | .list items => items_settled items
  | .map fields => fields_settled fields
  | .query _ filter params =>
    (settled_filter filter).mpr ⟨trivial, settled_params (items_settled params)⟩
termination_by structural v => v

theorem items_settled : ∀ items : List Value, SettledItems (itemsToJson items)
  | [] => trivial
  | item :: rest => ⟨toJson_settled item, items_settled rest⟩
termination_by structural items => items

theorem fields_settled : ∀ fields : List (String × Value), SettledFields (fieldsToJson fields)
  | [] => trivial
  | (_, value) :: rest => ⟨toJson_settled value, fields_settled rest⟩
termination_by structural fields => fields
end

theorem ofInt_inRange {n : Int} (h : Decimal.InRange n) : ofInt n = .int (Int64.ofInt n) := by
  rw [ofInt, Decimal.int64_inRange h]

mutual
/-- A tree with settled numbers is the tree of its value. -/
theorem settled_back : ∀ j : Json, j.Settled → (ofJson j).toJson = j
  | .null, _ | .bool _, _ | .string _, _ => rfl
  | .int n, h => by
    rw [ofJson, ofInt_inRange h, toJson, Decimal.toInt_ofInt_inRange h]
  | .float x, h => by
    have hfinite : x.isFinite = true := h
    simp only [ofJson, toJson, floatJson, hfinite, if_true]
  | .array items, h => by rw [ofJson, toJson, settled_items items h]
  | .object fields, h => by rw [ofJson, toJson, settled_fields fields h]
termination_by structural j => j

theorem settled_items : ∀ items : List Json, SettledItems items →
    itemsToJson (itemsOfJson items) = items
  | [], _ => rfl
  | item :: rest, h => by
    rw [itemsOfJson, itemsToJson, settled_back item h.1, settled_items rest h.2]
termination_by structural items => items

theorem settled_fields : ∀ fields : List (String × Json), SettledFields fields →
    fieldsToJson (fieldsOfJson fields) = fields
  | [], _ => rfl
  | (key, value) :: rest, h => by
    rw [fieldsOfJson, fieldsToJson, settled_back value h.1, settled_fields rest h.2]
termination_by structural fields => fields
end

mutual
theorem settled_plain : ∀ j : Json, j.Settled → (ofJson j).Plain
  | .null, _ | .bool _, _ | .string _, _ => trivial
  | .int n, h => by
    rw [ofJson, ofInt_inRange h]
    trivial
  | .float _, h => h
  | .array items, h => items_plain items h
  | .object fields, h => fields_plain fields h
termination_by structural j => j

theorem items_plain : ∀ items : List Json, SettledItems items → PlainItems (itemsOfJson items)
  | [], _ => trivial
  | item :: rest, h => ⟨settled_plain item h.1, items_plain rest h.2⟩
termination_by structural items => items

theorem fields_plain : ∀ fields : List (String × Json), SettledFields fields →
    PlainFields (fieldsOfJson fields)
  | [], _ => trivial
  | (_, value) :: rest, h => ⟨settled_plain value h.1, fields_plain rest h.2⟩
termination_by structural fields => fields
end

mutual
/-- The fields of a query are all that stands in another order in a tree and in a text. -/
theorem plain_tree : ∀ v : Value, v.Plain → v.toJson = v.written
  | .null, _ | .bool _, _ | .int _, _ | .float _, _ | .string _, _ => rfl
  | .list items, h => by rw [toJson, written, plain_item_trees items h]
  | .map fields, h => by rw [toJson, written, plain_field_trees fields h]
termination_by structural v => v

theorem plain_item_trees : ∀ items : List Value, PlainItems items →
    itemsToJson items = itemsWritten items
  | [], _ => rfl
  | item :: rest, h => by
    rw [itemsToJson, itemsWritten, plain_tree item h.1, plain_item_trees rest h.2]
termination_by structural items => items

theorem plain_field_trees : ∀ fields : List (String × Value), PlainFields fields →
    fieldsToJson fields = fieldsWritten fields
  | [], _ => rfl
  | (key, value) :: rest, h => by
    rw [fieldsToJson, fieldsWritten, plain_tree value h.1, plain_field_trees rest h.2]
termination_by structural fields => fields
end

/-- A value comes back out of its tree just where it is plain, a whole number as one and a float as
one. What comes back instead of any other value has the same tree. -/
theorem back_out_of_tree (v : Value) :
    (ofJson v.toJson = v ↔ v.Plain) ∧ (ofJson v.toJson).toJson = v.toJson := by
  have hsettled := toJson_settled v
  refine ⟨⟨fun h => ?_, fun h => ?_⟩, settled_back v.toJson hsettled⟩
  · rw [← h]
    exact settled_plain v.toJson hsettled
  · rw [plain_tree v h]
    exact plain_written v h

theorem back_out_of_tree_line :
    let line : Value := .map [("counts", .list [.int 1, .float 1, .int (-7)]), ("note", .null)]
    ofJson line.toJson = line := by
  intro line
  have hfinite : (1 : Float).isFinite = true := by decide
  have hplain : line.Plain := ⟨⟨trivial, hfinite, trivial, trivial⟩, trivial, trivial⟩
  exact (back_out_of_tree line).1.mpr hplain

/-- A query comes back as the map of its fields. -/
example : ofJson (query "Order" none [.list [.int 7, .null]]).toJson =
    .map [("model", .string "Order"), ("params", .list [.list [.int 7, .null]])] := by rfl

end ActionDispatch.Value
