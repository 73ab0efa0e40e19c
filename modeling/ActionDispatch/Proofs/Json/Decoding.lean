import ActionDispatch.Json.Decoding
import ActionDispatch.Proofs.Table

/-!
# Trees and records read back

A tree whose objects are tables comes back out of its node, if there are levels enough for it. So do
the fields of a record, in whatever order they stand.
-/

set_option autoImplicit false

namespace ActionDispatch.Json

mutual
def depth : Json → Nat
  | .array items => itemsDepth items + 1
  | .object fields => fieldsDepth fields + 1
  | _ => 0
termination_by structural j => j

def itemsDepth : List Json → Nat
  | [] => 0
  | item :: rest => max item.depth (itemsDepth rest)
termination_by structural items => items

def fieldsDepth : List (String × Json) → Nat
  | [] => 0
  | (_, value) :: rest => max value.depth (fieldsDepth rest)
termination_by structural fields => fields
end

mutual
def parts : Json → List Json
  | .array items => .array items :: itemParts items
  | .object fields => .object fields :: fieldParts fields
  | j => [j]
termination_by structural j => j

def itemParts : List Json → List Json
  | [] => []
  | item :: rest => item.parts ++ itemParts rest
termination_by structural items => items

def fieldParts : List (String × Json) → List Json
  | [] => []
  | (_, value) :: rest => value.parts ++ fieldParts rest
termination_by structural fields => fields
end

def Ordered (trees : List Json) : Prop :=
  ∀ fields, .object fields ∈ trees → Table.Sorted fields

variable {trees trees' : List Json}

theorem ordered_append : Ordered (trees ++ trees') ↔ Ordered trees ∧ Ordered trees' := by
  simp only [Ordered, List.mem_append, or_imp, forall_and]

theorem ordered_array {items : List Json} (h : Ordered (Json.array items).parts) :
    Ordered (itemParts items) :=
  fun fields hmem => h fields (List.mem_cons_of_mem _ hmem)

theorem ordered_object {fields : List (String × Json)} (h : Ordered (Json.object fields).parts) :
    Table.Sorted fields ∧ Ordered (fieldParts fields) :=
  ⟨h fields List.mem_cons_self, fun fields hmem => h fields (List.mem_cons_of_mem _ hmem)⟩

theorem ordered_field {fields : List (String × Json)} {name : String} {j : Json}
    (h : Ordered (fieldParts fields)) (hj : fields.lookup name = some j) : Ordered j.parts := by
  induction fields with
  | nil => cases hj
  | cons field rest ih =>
    obtain ⟨key, value⟩ := field
    obtain ⟨hvalue, hrest⟩ := ordered_append.mp h
    rw [List.lookup_cons] at hj
    split at hj
    next =>
      cases hj
      exact hvalue
    next => exact ih hrest hj

theorem depth_append {fields fields' : List (String × Json)} {levels : Nat} :
    fieldsDepth (fields ++ fields') ≤ levels ↔
      fieldsDepth fields ≤ levels ∧ fieldsDepth fields' ≤ levels := by
  induction fields with
  | nil => simp [fieldsDepth]
  | cons field rest ih =>
    obtain ⟨key, value⟩ := field
    simp only [List.cons_append, fieldsDepth, Nat.max_le, ih, and_assoc]

theorem parts_append (fields fields' : List (String × Json)) :
    fieldParts (fields ++ fields') = fieldParts fields ++ fieldParts fields' := by
  induction fields with
  | nil => rfl
  | cons field rest ih =>
    obtain ⟨key, value⟩ := field
    simp only [List.cons_append, fieldParts, ih, List.append_assoc]

mutual
theorem tree_back (levels : Nat) (j : Json) (h : Ordered j.parts) :
    j.toNode.tree? levels = if j.depth ≤ levels then some j else none := by
  cases j with
  | array items =>
    have hdepth : (array items).depth = itemsDepth items + 1 := rfl
    simp only [toNode, Node.tree?]
    by_cases hlevels : levels = 0
    · rw [if_pos hlevels, if_neg (by omega)]
    · rw [if_neg hlevels, items_back _ items (ordered_array h)]
      by_cases hfit : itemsDepth items ≤ levels - 1
      · rw [if_pos hfit, if_pos (by omega)]
        rfl
      · rw [if_neg hfit, if_neg (by omega)]
        rfl
  | object fields =>
    obtain ⟨hsorted, hfields⟩ := ordered_object h
    have hdepth : (object fields).depth = fieldsDepth fields + 1 := rfl
    simp only [toNode, Node.tree?]
    by_cases hlevels : levels = 0
    · rw [if_pos hlevels, if_neg (by omega)]
    · rw [if_neg hlevels, fields_back _ fields hfields]
      by_cases hfit : fieldsDepth fields ≤ levels - 1
      · rw [if_pos hfit, if_pos (by omega), Option.map_some, Table.ofList_sorted hsorted]
      · rw [if_neg hfit, if_neg (by omega)]
        rfl
  | null | bool b | int n | float x | string s => simp [toNode, Node.tree?, depth]
termination_by structural j

theorem items_back (levels : Nat) (items : List Json) (h : Ordered (itemParts items)) :
    Node.itemTrees? levels (itemNodes items) =
      if itemsDepth items ≤ levels then some items else none := by
  cases items with
  | nil => simp [itemNodes, Node.itemTrees?, itemsDepth]
  | cons item rest =>
    obtain ⟨hitem, hrest⟩ := ordered_append.mp h
    have hmax : itemsDepth (item :: rest) ≤ levels ↔
        item.depth ≤ levels ∧ itemsDepth rest ≤ levels :=
      Nat.max_le
    simp only [itemNodes, Node.itemTrees?, tree_back levels item hitem,
      items_back levels rest hrest]
    by_cases hfirst : item.depth ≤ levels <;> by_cases hothers : itemsDepth rest ≤ levels <;>
      simp [hmax, hfirst, hothers]
termination_by structural items

theorem fields_back (levels : Nat) (fields : List (String × Json))
    (h : Ordered (fieldParts fields)) :
    Node.fieldTrees? levels (fieldNodes fields) =
      if fieldsDepth fields ≤ levels then some fields else none := by
  cases fields with
  | nil => simp [fieldNodes, Node.fieldTrees?, fieldsDepth]
  | cons field rest =>
    obtain ⟨key, value⟩ := field
    obtain ⟨hvalue, hrest⟩ := ordered_append.mp h
    have hmax : fieldsDepth ((key, value) :: rest) ≤ levels ↔
        value.depth ≤ levels ∧ fieldsDepth rest ≤ levels := Nat.max_le
    simp only [fieldNodes, Node.fieldTrees?, tree_back levels value hvalue,
      fields_back levels rest hrest]
    by_cases hfirst : value.depth ≤ levels <;> by_cases hothers : fieldsDepth rest ≤ levels <;>
      simp [hmax, hfirst, hothers]
termination_by structural fields
end

namespace Node

def entriesOf (fields : List (String × Json)) : List (String × Node) :=
  fields.map fun (key, value) => (key, value.toNode)

variable {α : Type} {fields : List (String × Json)} {names : List String} {name : String}

theorem entries_back (levels : Nat) (fields : List (String × Json)) :
    (Json.object fields).toNode.entries? levels =
      if levels = 0 then none else some (entriesOf fields) := by
  have hkeyed : (fieldNodes fields).mapM keyed? = some (entriesOf fields) := by
    induction fields with
    | nil => rfl
    | cons field rest ih =>
      simp only [fieldNodes, List.mapM_cons, keyed?, ih]
      rfl
  simp only [toNode, entries?, hkeyed]

theorem entry_of (fields : List (String × Json)) (name : String) :
    (entriesOf fields).lookup name = (fields.lookup name).map toNode := by
  induction fields with
  | nil => rfl
  | cons field rest ih =>
    obtain ⟨key, value⟩ := field
    simp only [entriesOf, List.map_cons, List.lookup_cons] at ih ⊢
    split
    · rfl
    · exact ih

theorem record_back (levels : Nat) (hnames : names.Nodup)
    (h : (fields.map Prod.fst).Sublist names) :
    (Json.object fields).toNode.asRecord? names levels =
      if levels = 0 then none else some (entriesOf fields) := by
  have hkeys : (entriesOf fields).map Prod.fst = fields.map Prod.fst := by
    simp [entriesOf, Function.comp_def]
  have hknown : knownFields? names (entriesOf fields) = some (entriesOf fields) := by
    simp only [knownFields?]
    rw [List.filter_eq_self.mpr, if_pos (hkeys ▸ h.nodup hnames)]
    intro entry hentry
    have hkey : entry.1 ∈ fields.map Prod.fst := hkeys ▸ List.mem_map_of_mem hentry
    simpa using h.subset hkey
  have hentries := entries_back levels fields
  simp only [toNode] at hentries
  simp only [toNode, asRecord?, hentries]
  split
  next => rfl
  next => rw [Option.bind_some, hknown]

end Node

end ActionDispatch.Json
