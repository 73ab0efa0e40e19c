import ActionDispatch.Proofs.Json.Reading
import ActionDispatch.Proofs.Value.Decoding
import ActionDispatch.Response.Decoding

/-!
# Responses read back

Fields that are left out have the value that they are given when they are missing, so that a
response comes back out of its record. Only null as its data is taken for data that is missing.
-/

set_option autoImplicit false

namespace ActionDispatch.Response
open Json Node

variable {r : Response} {α : Type} {json : Value → Json} {name key : String} {levels : Nat}

theorem optional_lookup (name : String) (json : α → Json) (content : Option α) :
    (optionalField name json content).lookup key =
      if key = name then content.map json else none := by
  cases content with
  | none => simp [optionalField]
  | some a =>
    by_cases h : key = name
    · simp [optionalField, h]
    · simp [optionalField, List.lookup_cons, beq_false_of_ne h, h]

theorem optional_keys (name : String) (json : α → Json) (content : Option α) :
    ((optionalField name json content).map Prod.fst).Sublist [name] := by
  cases content <;> simp [optionalField]

def listed (json : Value → Json) (values : Table Value) : List (String × Json) :=
  values.map fun (field, value) => (field, json value)

def tableJson (json : Value → Json) (values : Table Value) : Json :=
  .object (listed json values)

def reloaded (r : Response) : Option Bool :=
  if r.reload then some true else none

def changed (r : Response) : Option (Table Value) :=
  if r.values.isEmpty then none else some r.values

theorem changed_values {values : Table Value} (h : values ∈ r.changed) : values = r.values := by
  unfold changed at h
  split at h
  next => cases h
  next => exact (Option.some.inj h).symm

theorem fields_optional (json : Value → Json) (r : Response) :
    r.fields json =
      optionalField "status" (fun status => .string status.name) (some r.status)
        ++ optionalField "data" json r.data
        ++ optionalField "exception" Fault.json r.exception
        ++ optionalField "reload" .bool r.reloaded
        ++ optionalField "flash" .string r.flash
        ++ optionalField "alert" .string r.alert
        ++ optionalField "error" .string r.error
        ++ optionalField "values" (tableJson json) r.changed := by
  have hreload : (if r.reload then [("reload", Json.bool true)] else []) =
      optionalField "reload" .bool r.reloaded := by
    unfold reloaded
    split <;> rfl
  have hvalues : (if r.values.isEmpty then [] else
      [("values", Json.object (r.values.map fun (field, value) => (field, json value)))]) =
      optionalField "values" (tableJson json) r.changed := by
    unfold changed
    split <;> rfl
  rw [fields, hreload, hvalues]
  rfl

theorem fields_known (json : Value → Json) (r : Response) :
    ((r.fields json).map Prod.fst).Sublist fieldNames := by
  simp only [fields_optional, List.map_append]
  exact
    (((((((optional_keys _ _ _).append (optional_keys _ _ _)).append (optional_keys _ _ _)).append
    (optional_keys _ _ _)).append (optional_keys _ _ _)).append (optional_keys _ _ _)).append
    (optional_keys _ _ _)).append (optional_keys _ _ _)

theorem fields_lookup (json : Value → Json) (r : Response) :
    (r.fields json).lookup "status" = some (.string r.status.name) ∧
    (r.fields json).lookup "data" = r.data.map json ∧
    (r.fields json).lookup "exception" = r.exception.map Fault.json ∧
    (r.fields json).lookup "reload" = r.reloaded.map .bool ∧
    (r.fields json).lookup "flash" = r.flash.map .string ∧
    (r.fields json).lookup "alert" = r.alert.map .string ∧
    (r.fields json).lookup "error" = r.error.map .string ∧
    (r.fields json).lookup "values" = r.changed.map (tableJson json) := by
  simp [fields_optional, List.lookup_append, optional_lookup]

variable {fields : List (String × Json)}

theorem text_given {text : Option String} (h : fields.lookup name = text.map .string) :
    given? (entriesOf fields) name none (asOption? asString?) = some text := by
  rw [given?, entry_of, h]
  cases text <;> rfl

theorem reload_given (h : fields.lookup name = r.reloaded.map .bool) :
    given? (entriesOf fields) name false asBool? = some r.reload := by
  rw [given?, entry_of, h, reloaded]
  cases r.reload <;> rfl

theorem status_required {status : Status} (h : fields.lookup name = some (.string status.name)) :
    required? (entriesOf fields) name (Status.ofNode? levels) = some status := by
  rw [required?, entry_of, h]
  cases status <;> rfl

theorem option_present {decode : Node → Option α} {node : Node} (h : node ≠ .null) :
    asOption? decode node = (decode node).map some := by
  cases node <;> first | rfl | exact absurd rfl h

/-- Null as the data is read as no data, and any other value as it is. -/
theorem data_given {data : Option Value} (h : fields.lookup name = data.map Value.written)
    (hdata : ∀ value ∈ data, value.Plain ∧ Ordered value.written.parts) :
    given? (entriesOf fields) name none (asOption? (Value.ofNode? levels)) =
      if ∀ value ∈ data, value.written.depth ≤ levels then
        some (data.filter fun value => !value.isNull)
      else none := by
  rw [given?, entry_of, h]
  cases data with
  | none => simp
  | some value =>
    obtain ⟨hplain, hordered⟩ := hdata value rfl
    have hback := Value.value_back levels hplain hordered
    simp only [Option.map_some, Option.mem_def, Option.some.injEq, forall_eq']
    cases value with
    | null =>
      -- The node of null is what an option takes for nothing.
      have hflat : Value.null.written.depth ≤ levels := Nat.zero_le _
      rw [if_pos hflat]
      rfl
    | query => exact hplain.elim
    | float x =>
      have hfinite : x.isFinite = true := hplain
      have hnode : (Value.float x).written.toNode ≠ .null := by
        simp [Value.written, Value.floatJson, hfinite, toNode]
      rw [option_present hnode, hback]
      split <;> rfl
    | bool | int | string | list | map =>
      rw [option_present (by simp [Value.written, toNode]), hback]
      split <;> rfl

theorem fault_back (fault : Fault) :
    Fault.ofNode? levels fault.json.toNode =
      if fault.json.depth ≤ levels then some fault else none := by
  have hknown : ([("kind", Json.string fault.kind), ("message", .string fault.message)].map
      Prod.fst).Sublist ["kind", "message"] := List.Sublist.refl _
  have hrecord := record_back levels (by decide) hknown
  have hdepth : fault.json.depth = 1 := rfl
  rw [Fault.ofNode?, Fault.json, hrecord, ← Fault.json, hdepth]
  by_cases hlevels : levels = 0
  · rw [if_pos hlevels, if_neg (by omega)]
    rfl
  · rw [if_neg hlevels, if_pos (by omega)]
    rfl

theorem exception_given {fault : Option Fault} (h : fields.lookup name = fault.map Fault.json) :
    given? (entriesOf fields) name none (asOption? (Fault.ofNode? levels)) =
      if ∀ f ∈ fault, f.json.depth ≤ levels then some fault else none := by
  rw [given?, entry_of, h]
  cases fault with
  | none => simp
  | some fault =>
    simp only [Option.map_some, Option.mem_def, Option.some.injEq, forall_eq']
    rw [option_present (by simp [Fault.json, toNode]), fault_back]
    split <;> rfl

theorem values_back {values : Table Value} (hplain : Value.PlainFields values)
    (hordered : Ordered (fieldParts (listed Value.written values))) :
    (entriesOf (listed Value.written values)).mapM
        (fun (key, node) => (Value.ofNode? levels node).map (key, ·)) =
      if fieldsDepth (listed Value.written values) ≤ levels
      then some values else none := by
  induction values with
  | nil => simp [entriesOf, listed, fieldsDepth]
  | cons field rest ih =>
    obtain ⟨key, value⟩ := field
    obtain ⟨hvalue, hrest⟩ := ordered_append.mp hordered
    have hback := Value.value_back levels hplain.1 hvalue
    have hmax : fieldsDepth (listed Value.written ((key, value) :: rest)) ≤ levels ↔
        value.written.depth ≤ levels ∧ fieldsDepth (listed Value.written rest) ≤ levels :=
      Nat.max_le
    have hstep : entriesOf (listed Value.written ((key, value) :: rest)) =
        (key, value.written.toNode) :: entriesOf (listed Value.written rest) := rfl
    rw [hstep, List.mapM_cons, ih hplain.2 hrest]
    simp only [hback]
    by_cases hfirst : value.written.depth ≤ levels <;>
      by_cases hothers : fieldsDepth (listed Value.written rest) ≤ levels <;>
        simp [hmax, hfirst, hothers]

theorem table_back {values : Table Value} (hplain : Value.PlainFields values)
    (hordered : Ordered (tableJson Value.written values).parts) :
    asTable? levels Value.ofNode? (tableJson Value.written values).toNode =
      if (tableJson Value.written values).depth ≤ levels then some values else none := by
  have hdepth : (tableJson Value.written values).depth =
      fieldsDepth (listed Value.written values) + 1 := rfl
  obtain ⟨hsorted, hfields⟩ := ordered_object hordered
  rw [tableJson, asTable?, entries_back, ← tableJson]
  by_cases hlevels : levels = 0
  · rw [if_pos hlevels, if_neg (by omega)]
    rfl
  · rw [if_neg hlevels]
    simp only [Option.bind_eq_bind, Option.bind_some]
    rw [values_back hplain hfields]
    have hkeys : Table.Sorted values := by
      simpa [Table.Sorted, Table.keys, listed, Function.comp_def] using hsorted
    by_cases hfit : fieldsDepth (listed Value.written values) ≤ levels - 1
    · rw [if_pos hfit, if_pos (by omega), Option.bind_some, Table.ofList_sorted hkeys]
    · rw [if_neg hfit, if_neg (by omega)]
      rfl

theorem values_given (h : fields.lookup name = r.changed.map (tableJson Value.written))
    (hvalues : ∀ values ∈ r.changed,
      Value.PlainFields values ∧ Ordered (tableJson Value.written values).parts) :
    given? (entriesOf fields) name Table.empty (asTable? levels Value.ofNode?) =
      if ∀ values ∈ r.changed, (tableJson Value.written values).depth ≤ levels then some r.values
      else none := by
  rw [given?, entry_of, h]
  by_cases hempty : r.values.isEmpty
  · simp [changed, List.isEmpty_iff.mp hempty, Table.empty]
  · have hchanged : r.changed = some r.values := if_neg hempty
    rw [hchanged] at hvalues ⊢
    obtain ⟨hplain, hordered⟩ := hvalues r.values rfl
    simp only [Option.map_some, Option.mem_def, Option.some.injEq, forall_eq']
    exact table_back hplain hordered

theorem optional_depth (name : String) (json : α → Json) (content : Option α) :
    fieldsDepth (optionalField name json content) ≤ levels ↔
      ∀ a ∈ content, (json a).depth ≤ levels := by
  cases content <;> simp [optionalField, fieldsDepth]

theorem written_depth (r : Response) :
    r.written.depth ≤ levels ↔ levels ≠ 0 ∧ (∀ value ∈ r.data, value.written.depth ≤ levels - 1) ∧
      (∀ fault ∈ r.exception, fault.json.depth ≤ levels - 1) ∧
      ∀ values ∈ r.changed, (tableJson Value.written values).depth ≤ levels - 1 := by
  have hdepth : r.written.depth = fieldsDepth (r.fields Value.written) + 1 := rfl
  have hfields : fieldsDepth (r.fields Value.written) ≤ levels - 1 ↔
      (∀ value ∈ r.data, value.written.depth ≤ levels - 1) ∧
      (∀ fault ∈ r.exception, fault.json.depth ≤ levels - 1) ∧
      ∀ values ∈ r.changed, (tableJson Value.written values).depth ≤ levels - 1 := by
    simp [fields_optional, depth_append, optional_depth, depth]
  rw [hdepth, ← hfields]
  omega

/-- The values of a response have neither queries in them nor floats that are no finite numbers, and
all maps in it are tables. -/
structure Storable (r : Response) : Prop where
  data : ∀ value ∈ r.data, value.Plain
  values : Value.PlainFields r.values
  ordered : Ordered (fieldParts (r.fields Value.written))

/-- A response comes back out of its record, if there are levels enough, with no data in place of
null as its data. -/
theorem response_back (hr : r.Storable) (levels : Nat) :
    ofNode? levels r.written.toNode =
      if r.written.depth ≤ levels then
        some { r with data := r.data.filter fun value => !value.isNull }
      else none := by
  obtain ⟨hstatus, hdata, hexception, hreload, hflash, halert, herror, hvalues⟩ :=
    fields_lookup Value.written r
  have hrecord := record_back levels (by decide) (fields_known Value.written r)
  have hstored : ∀ value ∈ r.data, value.Plain ∧ Ordered value.written.parts := by
    intro value hvalue
    refine ⟨hr.data value hvalue, ordered_field hr.ordered (hdata.trans ?_)⟩
    rw [Option.mem_def.mp hvalue, Option.map_some]
  have hchanged : ∀ values ∈ r.changed,
      Value.PlainFields values ∧ Ordered (tableJson Value.written values).parts := by
    intro values hmem
    refine ⟨?_, ordered_field hr.ordered (hvalues.trans ?_)⟩
    · rw [changed_values hmem]
      exact hr.values
    · rw [Option.mem_def.mp hmem, Option.map_some]
  rw [ofNode?, written, hrecord, ← written]
  by_cases hlevels : levels = 0
  · rw [if_pos hlevels, if_neg fun hle => (written_depth r).mp hle |>.1 hlevels]
    rfl
  rw [if_neg hlevels]
  simp only [Option.bind_eq_bind, Option.bind_some]
  rw [status_required hstatus, data_given hdata hstored, exception_given hexception,
    reload_given hreload, text_given hflash, text_given halert, text_given herror,
    values_given hvalues hchanged]
  by_cases hfit : r.written.depth ≤ levels
  · obtain ⟨-, hd, he, hv⟩ := (written_depth r).mp hfit
    rw [if_pos hd, if_pos he, if_pos hv, if_pos hfit]
    rfl
  · -- The first field with too many levels refuses the whole record.
    rw [if_neg hfit]
    by_cases hd : ∀ value ∈ r.data, value.written.depth ≤ levels - 1
    · rw [if_pos hd]
      by_cases he : ∀ fault ∈ r.exception, fault.json.depth ≤ levels - 1
      · have hv : ¬∀ values ∈ r.changed, (tableJson Value.written values).depth ≤ levels - 1 :=
          fun hv => hfit ((written_depth r).mpr ⟨hlevels, hd, he, hv⟩)
        rw [if_pos he, if_neg hv]
        rfl
      · rw [if_neg he]
        rfl
    · rw [if_neg hd]
      rfl

theorem listed_written (values : Table Value) :
    listed Value.written values = Value.fieldsWritten values := by
  induction values with
  | nil => rfl
  | cons field rest ih =>
    obtain ⟨key, value⟩ := field
    rw [Value.fieldsWritten, ← ih]
    rfl

theorem optional_parts (name : String) (json : α → Json) (content : Option α) (j : Json) :
    j ∈ fieldParts (optionalField name json content) ↔ ∃ a ∈ content, j ∈ (json a).parts := by
  cases content <;> simp [optionalField, fieldParts]

theorem written_integer {n : Int} (h : .int n ∈ r.written.parts) : ∃ m : Int64, n = m.toInt := by
  have hfields : .int n ∈ fieldParts (r.fields Value.written) := by simpa [written, parts] using h
  have hparts : (∃ value ∈ r.data, .int n ∈ value.written.parts) ∨
      ∃ values ∈ r.changed, .int n ∈ fieldParts (Value.fieldsWritten values) := by
    simpa [fields_optional, parts_append, optional_parts, parts, fieldParts, Fault.json, tableJson,
      listed_written] using hfields
  obtain ⟨value, -, hvalue⟩ | ⟨values, -, hvalues⟩ := hparts
  · exact Value.integer_part n value hvalue
  · exact Value.integer_fields n values hvalues

theorem written_readable
    (hfloats : ∀ x, .float x ∈ r.written.parts → ReadsAs (floatText x) (.float x)) :
    Readable r.written.parts := by
  refine ⟨fun n hn => ?_, hfloats⟩
  obtain ⟨m, rfl⟩ := written_integer hn
  have hl := m.le_toInt
  have hu := m.toInt_lt
  simp only [Decimal.signedLimit, Decimal.wordLimit]
  omega

theorem data_kept (data : Option Value) :
    (data.filter fun value => !value.isNull) = data ↔ data ≠ some .null := by
  cases data with
  | none => simp
  | some value => cases value <;> simp [Value.isNull, Option.filter]

/-- A response that is written is read back, as a tree and as a text, if there are levels enough for
it: as it was, unless its data is null, which is read as no data. -/
theorem response_read_back (hr : r.Storable) (levels : Nat) :
    let back := if r.written.depth ≤ levels
      then some { r with data := r.data.filter fun value => !value.isNull } else none
    ofNode? levels r.written.toNode = back ∧
      ((∀ x, .float x ∈ r.written.parts → ReadsAs (floatText x) (.float x)) →
        (node? r.written.compact).bind (ofNode? levels) = back) ∧
      (r.written.depth ≤ levels → (back = some r ↔ r.data ≠ some .null)) := by
  intro back
  refine ⟨response_back hr levels, fun hfloats => ?_, fun hfit => ?_⟩
  · rw [node_back (written_readable hfloats), Option.bind_some]
    exact response_back hr levels
  · have hback : back = some { r with data := r.data.filter fun value => !value.isNull } :=
      if_pos hfit
    rw [hback, ← data_kept]
    exact ⟨fun heq => congrArg Response.data (Option.some.inj heq), fun heq => by rw [heq]⟩

def ofReloadedOrder : Response :=
  { empty with
    data := some (.map [("lines", .list [.int 2, .null]), ("note", .string "\x22new\x22\n")])
    reload := true
    values := [("note", .null), ("total", .int (-10))] }

theorem response_read_back_order :
    (node? ofReloadedOrder.written.compact).bind (ofNode? levelLimit) = some ofReloadedOrder := by
  have hstored : ofReloadedOrder.Storable := by
    refine ⟨?_, ?_, ?_⟩
    · simp [ofReloadedOrder, Value.Plain, Value.PlainFields, Value.PlainItems]
    · simp [ofReloadedOrder, Value.Plain, Value.PlainFields]
    · intro fields hfields
      have hcases : fields =
          [("lines", .array [.int 2, .null]), ("note", .string "\x22new\x22\n")] ∨
          fields = [("note", .null), ("total", .int (-10))] := by
        simpa [ofReloadedOrder, Response.fields, optionalField, empty, fieldParts, itemParts, parts,
          Value.written, Value.itemsWritten, Value.fieldsWritten] using hfields
      rcases hcases with rfl | rfl <;> decide
  have hfloats : ∀ x, .float x ∈ ofReloadedOrder.written.parts →
      ReadsAs (floatText x) (.float x) := by
    intro x hx
    simp [ofReloadedOrder, written, Response.fields, optionalField, empty, fieldParts,
      itemParts, parts, Value.written, Value.itemsWritten, Value.fieldsWritten] at hx
  have hfit : ofReloadedOrder.written.depth ≤ levelLimit := by decide
  obtain ⟨-, htext, hsame⟩ := response_read_back hstored levelLimit
  rw [htext hfloats]
  exact (hsame hfit).mpr (by simp [ofReloadedOrder])

/-- Null as the data of a response is written, and read as no data. -/
theorem null_data_lost :
    (success .null).data = some .null ∧
      ofNode? levelLimit (success .null).written.toNode = some empty ∧
      (node? (success .null).written.compact).bind (ofNode? levelLimit) = some empty := by
  have hfloats : ∀ x, .float x ∈ (success .null).written.parts →
      ReadsAs (floatText x) (.float x) := by
    intro x hx
    simp [success, written, Response.fields, optionalField, empty, fieldParts, parts, Value.written,
      Table.empty] at hx
  have hread : ofNode? levelLimit (success .null).written.toNode = some empty := rfl
  exact ⟨rfl, hread, by rw [node_back (written_readable hfloats), Option.bind_some, hread]⟩

end ActionDispatch.Response
