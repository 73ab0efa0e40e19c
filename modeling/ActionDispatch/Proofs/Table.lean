import ActionDispatch.Table

/-!
# Laws of tables

What is found in a table behind insertions. Of the entries that a table is made of the last under a
key counts. Entries that stand in order are a table already.
-/

set_option autoImplicit false

namespace ActionDispatch.Table

variable {α : Type}

theorem get?_cons (t : Table α) (key : String) (value : α) (name : String) :
    get? ((key, value) :: t) name = if name = key then some value else t.get? name := by
  rw [get?, get?, List.lookup_cons]
  by_cases h : name = key
  · simp [h]
  · simp [h, beq_false_of_ne h]

theorem get?_insert (t : Table α) (key : String) (value : α) (name : String) :
    (t.insert key value).get? name = if name = key then some value else t.get? name := by
  induction t with
  | nil => exact get?_cons [] key value name
  | cons entry t ih =>
    obtain ⟨k, v⟩ := entry
    rw [insert]
    split
    next hk =>
      subst hk
      rw [get?_cons, get?_cons]
      split <;> rfl
    next hk =>
      split
      · exact get?_cons _ key value name
      · rw [get?_cons, get?_cons, ih]
        by_cases hname : name = key
        · subst hname
          simp [hk]
        · simp [hname]

theorem mem_of_get?_insertAll {t : Table α} {entries : List (String × α)}
    {name : String} {value : α}
    (h : (t.insertAll entries).get? name = some value) :
    t.get? name = some value ∨ (name, value) ∈ entries := by
  induction entries generalizing t with
  | nil => exact .inl h
  | cons entry entries ih =>
    obtain ⟨key, v⟩ := entry
    obtain h | h := ih (t := t.insert key v) h
    · rw [get?_insert] at h
      split at h
      next heq =>
        obtain rfl := Option.some.inj h
        exact .inr (heq ▸ List.mem_cons_self)
      next => exact .inl h
    · exact .inr (List.mem_cons_of_mem _ h)

theorem get?_insertAll_none {t : Table α} {entries : List (String × α)} {name : String} :
    (t.insertAll entries).get? name = none ↔
      t.get? name = none ∧ ∀ value, (name, value) ∉ entries := by
  induction entries generalizing t with
  | nil => simp [insertAll]
  | cons entry entries ih =>
    obtain ⟨key, v⟩ := entry
    have hstep : t.insertAll ((key, v) :: entries) = (t.insert key v).insertAll entries := rfl
    rw [hstep, ih, get?_insert]
    by_cases hkey : name = key
    · subst hkey
      simp only [if_true, reduceCtorEq, false_and, false_iff, not_and]
      exact fun _ hnone => hnone v List.mem_cons_self
    · simp [hkey]

def Sorted (t : Table α) : Prop := t.keys.Pairwise (· < ·)

instance (t : Table α) : Decidable t.Sorted :=
  inferInstanceAs (Decidable (List.Pairwise _ _))

theorem insert_behind {t : Table α} {key : String} (h : ∀ k ∈ t.keys, k < key) (value : α) :
    t.insert key value = t ++ [(key, value)] := by
  induction t with
  | nil => rfl
  | cons entry t ih =>
    obtain ⟨k, v⟩ := entry
    obtain ⟨hk, hrest⟩ := List.forall_mem_cons.mp h
    have hne : key ≠ k := by
      rintro rfl
      exact String.lt_irrefl _ hk
    rw [insert, if_neg hne, if_neg (String.lt_asymm hk), ih hrest, List.cons_append]

theorem insertAll_sorted {t : Table α} {entries : List (String × α)} (h : Sorted (t ++ entries)) :
    t.insertAll entries = t ++ entries := by
  induction entries generalizing t with
  | nil => exact (List.append_nil t).symm
  | cons entry entries ih =>
    obtain ⟨key, value⟩ := entry
    have hbefore : ∀ k ∈ t.keys, k < key := by
      intro k hk
      rw [Sorted, keys, List.map_append, List.pairwise_append] at h
      exact h.2.2 k hk key List.mem_cons_self
    have hstep : t.insertAll ((key, value) :: entries) = (t.insert key value).insertAll entries :=
      rfl
    rw [hstep, insert_behind hbefore]
    have hsplit : t ++ (key, value) :: entries = (t ++ [(key, value)]) ++ entries := by simp
    rw [hsplit] at h ⊢
    exact ih h

theorem ofList_sorted {t : Table α} (h : t.Sorted) : ofList t = t :=
  insertAll_sorted (t := []) h

end ActionDispatch.Table
