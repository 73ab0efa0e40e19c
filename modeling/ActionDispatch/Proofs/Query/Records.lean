import ActionDispatch.Proofs.Handler.Stores
import ActionDispatch.Proofs.Query.Answers

/-!
# Stores of records

A table of records is put into a store row by row. The query for whole rows of a model is answered
with the rows that the table has for it, each a record of its own type. A model of the table that
has no rows leaves nothing in the store, where it is as unknown as any other.
-/

set_option autoImplicit false

namespace ActionDispatch
open Query Text

namespace RecordStore

theorem tagged_field (model : String) (fields : List (String × Value)) (name : String) :
    (tagged model (.map fields)).field? name =
      if name = Value.modelKey then some ((fields.lookup Value.modelKey).getD (.string model))
      else fields.lookup name := by
  simp only [tagged]
  split
  next howned =>
    obtain ⟨v, hv⟩ := Option.isSome_iff_exists.mp howned
    split
    next hname => rw [Value.field?, hname, hv, Option.getD_some]
    next => rfl
  next hfree =>
    have hnone : fields.lookup Value.modelKey = none := Option.not_isSome_iff_eq_none.mp hfree
    rw [hnone]
    exact Table.get?_insert fields Value.modelKey (.string model) name

theorem tagged_other (model : String) {row : Value} (h : ∀ fields, row ≠ .map fields) :
    tagged model row = row := by
  cases row with
  | map fields => exact absurd rfl (h fields)
  | null | bool | int | float | string | list | query => rfl

def entries (records : List (String × List Value)) : List (String × Value) :=
  records.flatMap fun (model, rows) => rows.map (model, ·)

theorem ofRecords_inserts (records : List (String × List Value)) :
    ofRecords records = ofInserts (entries records) := by
  rw [ofRecords, ofInserts, entries, List.foldl_flatMap]
  simp only [List.foldl_map]

theorem insertedRows_append (model : String) (before after : List (String × Value)) :
    insertedRows model (before ++ after) = insertedRows model before ++ insertedRows model after :=
  List.filterMap_append

theorem insertedRows_one (model name : String) (rows : List Value) :
    insertedRows model (rows.map (name, ·)) =
      if name = model then rows.map (tagged model) else [] := by
  rw [insertedRows, List.filterMap_map]
  split
  next hname => simp [hname]
  next hname => simp [hname]

theorem insertedRows_absent {records : List (String × List Value)} {model : String}
    (h : model ∉ records.map Prod.fst) : insertedRows model (entries records) = [] := by
  induction records with
  | nil => rfl
  | cons entry records ih =>
    obtain ⟨name, rows⟩ := entry
    simp only [List.map_cons, List.mem_cons, not_or] at h
    have hsplit : entries ((name, rows) :: records) = rows.map (name, ·) ++ entries records := rfl
    rw [hsplit, insertedRows_append, insertedRows_one, if_neg (Ne.symm h.1), ih h.2,
      List.append_nil]

theorem insertedRows_entries {records : List (String × List Value)}
    (hkeys : (records.map Prod.fst).Nodup)
    {model : String} {rows : List Value} (h : (model, rows) ∈ records) :
    insertedRows model (entries records) = rows.map (tagged model) := by
  induction records with
  | nil => cases h
  | cons entry records ih =>
    obtain ⟨name, first⟩ := entry
    obtain ⟨habsent, hrest⟩ := List.nodup_cons.mp hkeys
    have hsplit : entries ((name, first) :: records) = first.map (name, ·) ++ entries records := rfl
    rw [hsplit, insertedRows_append, insertedRows_one]
    rcases List.mem_cons.mp h with heq | h
    · obtain ⟨rfl, rfl⟩ := Prod.mk.inj heq
      rw [if_pos rfl, insertedRows_absent habsent, List.append_nil]
    · have hname : name ≠ model := by
        rintro rfl
        exact habsent (List.mem_map.mpr ⟨_, h, rfl⟩)
      rw [if_neg hname, ih hrest h, List.nil_append]

/-- The store of a table knows a model just where it has rows for it. -/
theorem get?_ofRecords {records : List (String × List Value)} (hkeys : (records.map Prod.fst).Nodup)
    {model : String} {rows : List Value} (h : (model, rows) ∈ records) :
    Table.get? (ofRecords records) model =
      if rows = [] then none else some (rows.map (tagged model)) := by
  rw [ofRecords_inserts, ofInserts, get?_inserts, insertedRows_entries hkeys h]
  cases rows <;> rfl

def wholeRows (model : String) : String := "SELECT self FROM " ++ model ++ " self"

theorem wholeRows_text (model : String) :
    (wholeRows model).toList = "SELECT self FROM ".toList ++ model.toList ++ " self".toList :=
  String.toList_append.trans (congrArg (· ++ " self".toList) String.toList_append)

theorem wholeRows_spelled {model : String} (hm : IsPath model.toList) :
    Select.Spelled ⟨model, [], []⟩ (wholeRows model).toList := by
  have hgap : Gap [' '] := by decide
  have hnone : Blanks [] := by decide
  have hselect : Keyword "select" "SELECT".toList := rfl
  have hfrom : Keyword "from" "FROM".toList := rfl
  have hself : IsWord "self".toList := by decide
  have hprojection : ([] : List String) = [] ∨ FieldPath [] := .inl rfl
  have hspelled := Select.Spelled.intro hnone hselect hgap hprojection hgap hfrom hgap
    hm (.given hgap hself) (.none hnone)
  have hsplit : "SELECT self FROM ".toList =
      "SELECT".toList ++ [' '] ++ "self".toList ++ [' '] ++ "FROM".toList ++ [' '] := by decide
  rw [wholeRows_text, hsplit]
  simpa [projectionText] using hspelled

theorem wholeRows_normal (model : String) :
    Query.normalize (wholeRows model) = wholeRows model ∧
      isBlankText (wholeRows model).toList = false := by
  have hfirst : IsWord "SELECT".toList := by decide
  have hlast : IsWord "self".toList := by decide
  have hsplit : (wholeRows model).toList =
      "SELECT".toList ++ (" self FROM ".toList ++ model.toList ++ [' '] ++ "self".toList) := by
    rw [wholeRows_text]
    simp
  have hsolid := solid_around (path_solid (word_path hfirst))
    (" self FROM ".toList ++ model.toList ++ [' ']) (path_solid (word_path hlast))
  rw [← hsplit] at hsolid
  have hstrip : strip (wholeRows model) = wholeRows model := by
    rw [strip, solid_trim hsolid, String.ofList_toList]
  refine ⟨?_, ?_⟩
  · have hselect : startsWithSelect (wholeRows model).toList = true := by
      rw [hsplit]
      rfl
    rw [Query.normalize, hstrip, if_pos hselect]
  · rw [hsplit]
    rfl

theorem answer_whole (model : String) (scope : Table Value) (params rows : List Value) :
    Select.answer scope params ⟨model, [], []⟩ rows = .ok rows := by
  have hrow : ∀ row : Value, fieldAt row [] = row := fun _ => rfl
  simp [Select.answer, hrow]

end RecordStore

namespace RecordStore

variable {records : List (String × List Value)} {model : String} {rows : List Value}

/-- A query on a model with rows is answered with all of them, whatever is bound to it. -/
theorem create_wholeRows (hkeys : (records.map Prod.fst).Nodup) (h : (model, rows) ∈ records)
    (hmodel : IsPath model.toList) :
    (ofRecords records).create (wholeRows model) =
      if rows = [] then .error (.unknownModel model)
      else .ok ⟨⟨model, [], []⟩, rows.map (tagged model), Table.empty, []⟩ := by
  rw [create, select_read (wholeRows_spelled hmodel)]
  change prepare _ ⟨model, [], []⟩ [] = _
  rw [prepare, get?_ofRecords hkeys h]
  cases rows <;> rfl

theorem execute_wholeRows (model : String) (rows : List Value) (scope : Table Value)
    (params : List Value) :
    (RecordQuery.bind ⟨⟨model, [], []⟩, rows, Table.empty, []⟩ scope params).execute =
      .ok rows := by
  rw [RecordQuery.execute_answer]
  exact answer_whole model scope _ rows

/-- For a model of a table of records, the query for its whole rows has the rows of the table for an
answer, in order, each record with its type, if there are any. A model without rows is not known.
What a handler selects is the only row, or all of them; without rows its query fails. -/
theorem records_answered (hkeys : (records.map Prod.fst).Nodup) (hmem : (model, rows) ∈ records)
    (hmodel : IsPath model.toList) :
    (rows ≠ [] → ∃ handle, (ofRecords records).create (wholeRows model) = .ok handle ∧
      ∀ scope params, (handle.bind scope params).execute = .ok (rows.map (tagged model)) ∧
        (handle.bind scope params).one = single (rows.map (tagged model))) ∧
    (rows = [] → (ofRecords records).create (wholeRows model) = .error (.unknownModel model)) ∧
    (∀ h : Handler, h.services.queries = (ofRecords records).engine → ∀ params,
      (h.selectOne (wholeRows model) params).outcome =
        (match rows with
        | [] => .failed (.query (.unknownModel model))
        | [row] => .done (tagged model row)
        | _ => .failed (.query (.nonUnique rows.length))) ∧
      (h.selectAll (wholeRows model) params).outcome =
        .done (if rows = [] then .null else .list (rows.map (tagged model)))) ∧
    (∀ fields name, (tagged model (.map fields)).field? name =
      if name = Value.modelKey then some ((fields.lookup Value.modelKey).getD (.string model))
      else fields.lookup name) ∧
    ∀ row, (∀ fields, row ≠ .map fields) → tagged model row = row := by
  have hcreate := create_wholeRows hkeys hmem hmodel
  obtain ⟨hnormal, hblank⟩ := wholeRows_normal model
  refine ⟨fun hne => ?_, fun hnone => ?_, fun h hstore params => ⟨?_, ?_⟩, tagged_field model,
    fun row => tagged_other model⟩
  · rw [if_neg hne] at hcreate
    refine ⟨_, hcreate, fun scope params => ?_⟩
    have hexecute := execute_wholeRows model (rows.map (tagged model)) scope params
    refine ⟨hexecute, ?_⟩
    rw [RecordQuery.one_single, hexecute]
    rfl
  · rw [hcreate, if_pos hnone]
  · rw [Handler.selectOne_store hstore hblank, hnormal, hcreate]
    match rows with
    | [] => rfl
    | row :: more =>
      have hexecute := execute_wholeRows model ((row :: more).map (tagged model)) h.bindings params
      simp only [reduceCtorEq, if_false, RecordQuery.one_single, hexecute]
      cases more with
      | nil => rfl
      | cons next more =>
        simp only [bind, Except.bind, single, List.map_cons, List.length_cons, List.length_map]
  · rw [Handler.selectAll_store hstore hblank, hnormal, hcreate]
    cases rows with
    | nil => rfl
    | cons row more =>
      have hexecute := execute_wholeRows model ((row :: more).map (tagged model)) h.bindings params
      simp only [reduceCtorEq, if_false, bind, Except.bind, hexecute]

def orderRecords : List (String × List Value) :=
  [("Item", []), ("Order.Line",
    [.map [("code", .string "A")], .int 3, .map [("_model", .string "Draft")]])]

theorem records_answered_lines :
    ∃ handle, (ofRecords orderRecords).create "SELECT self FROM Order.Line self" = .ok handle ∧
      (handle.bind Table.empty []).execute =
        .ok [.map [("_model", .string "Order.Line"), ("code", .string "A")], .int 3,
          .map [("_model", .string "Draft")]] := by
  have hmem : ("Order.Line", _) ∈ orderRecords := .tail _ (.head _)
  obtain ⟨hrows, -⟩ := records_answered (by decide) hmem (by decide)
  obtain ⟨handle, hcreate, hanswer⟩ := hrows (by simp)
  exact ⟨handle, hcreate, (hanswer Table.empty []).1⟩

/-- A model of the table that has no rows is taken for one that is not in the table. -/
theorem rowless_model_unknown :
    ("Item", []) ∈ orderRecords ∧
      (ofRecords orderRecords).create "SELECT self FROM Item self" =
        .error (.unknownModel "Item") :=
  have hmem : ("Item", []) ∈ orderRecords := .head _
  ⟨hmem, create_wholeRows (by decide) hmem (by decide)⟩

end RecordStore

end ActionDispatch
