import ActionDispatch.Proofs.Query.Conditions
import ActionDispatch.Record.Titles

/-!
# Paths of titles

A path is followed field by field. A record that names its entity type, and a null, forgets the
owner it was reached with. From there on it does not matter which owner the path began with. Where
nothing on the way is of that kind, the owner of the first record decides, by the fields that refer
to each other, what the last value is titled with. The names of a path are read back from its text,
question marks in front of its points left out.
-/

set_option autoImplicit false

namespace ActionDispatch

def Value.reached (v : Value) : List String → Value
  | [] => v
  | field :: rest => ((v.field? field).getD .null).reached rest

def Value.passed (v : Value) : List String → List Value
  | [] => []
  | field :: rest => v :: ((v.field? field).getD .null).passed rest

def Value.Anchored (v : Value) : Prop := v.isNull = true ∨ v.model?.isSome = true

instance (v : Value) : Decidable v.Anchored := inferInstanceAs (Decidable (_ ∨ _))

namespace Titles
open Query Text

variable {t : Titles} {v : Value} {name : String} {names : List String} {s : List Char}

def referred (t : Titles) (owner : Option String) (field : String) : Option String :=
  (owner.bind (t.property? · field)).bind (·.target)

def lastProperty (t : Titles) (owner : Option String) : List String → Option Property
  | [] => none
  | [field] => owner.bind (t.property? · field)
  | field :: next :: rest => t.lastProperty (t.referred owner field) (next :: rest)

theorem lastProperty_none (names : List String) : t.lastProperty none names = none := by
  induction names with
  | nil => rfl
  | cons field rest ih =>
    cases rest with
    | nil => rfl
    | cons next rest => exact ih

theorem follow_null (h : v.isNull = true) (owner : Option String) (names : List String) :
    t.follow owner v names = "" := by
  cases names with
  | nil => rfl
  | cons field rest => rw [follow, if_pos h]

theorem follow_on (hv : v.isNull = false) (hne : names ≠ []) (owner : Option String)
    (field : String) :
    t.follow owner v (field :: names) =
      t.follow (t.referred (v.model?.orElse fun _ => owner) field) ((v.field? field).getD .null)
        names := by
  obtain ⟨next, rest, rfl⟩ := List.exists_cons_of_ne_nil hne
  rw [follow, hv]
  rfl

/-- The owner is not asked for at an anchored value. -/
theorem follow_anchored (h : v.Anchored) (owner owner' : Option String) (names : List String) :
    t.follow owner v names = t.follow owner' v names := by
  cases names with
  | nil => rfl
  | cons field rest =>
    rcases h with hnull | hmodel
    · simp only [follow, hnull, if_true]
    · obtain ⟨model, hmodel⟩ := Option.isSome_iff_exists.mp hmodel
      simp only [follow, hmodel, Option.orElse_some]

theorem follow_step (h : ¬v.Anchored) (owner : Option String) (field next : String)
    (rest : List String) :
    t.follow owner v (field :: next :: rest) =
      t.follow (t.referred owner field) ((v.field? field).getD .null) (next :: rest) := by
  obtain ⟨hnull, hmodel⟩ := not_or.mp h
  rw [Bool.not_eq_true] at hnull
  rw [Option.not_isSome_iff_eq_none] at hmodel
  rw [follow_on hnull (List.cons_ne_nil next rest), hmodel]
  rfl

/-- With an anchored value on the way a path is followed in the same way from all owners. -/
theorem follow_owners (h : ∃ w ∈ v.passed names, w.Anchored) (owner owner' : Option String) :
    t.follow owner v names = t.follow owner' v names := by
  induction names generalizing v owner owner' with
  | nil => rfl
  | cons field rest ih =>
    by_cases hv : v.Anchored
    · exact follow_anchored hv owner owner' (field :: rest)
    · have hrest : ∃ w ∈ ((v.field? field).getD .null).passed rest, w.Anchored := by
        simpa [Value.passed, hv] using h
      cases rest with
      | nil => simp [Value.passed] at hrest
      | cons next rest =>
        rw [follow_step hv, follow_step hv]
        exact ih hrest _ _

/-- With none, the last value is titled by the field that the owner's fields lead to. -/
theorem follow_unanchored (hne : names ≠ []) (h : ∀ w ∈ v.passed names, ¬w.Anchored)
    (owner : Option String) :
    t.follow owner v names = t.label (t.lastProperty owner names) (v.reached names) := by
  induction names generalizing v owner with
  | nil => exact absurd rfl hne
  | cons field rest ih =>
    obtain ⟨hv, hrest⟩ := List.forall_mem_cons.mp h
    cases rest with
    | nil =>
      obtain ⟨hnull, hmodel⟩ := not_or.mp hv
      rw [Bool.not_eq_true] at hnull
      rw [Option.not_isSome_iff_eq_none] at hmodel
      rw [follow, hnull, hmodel]
      rfl
    | cons next rest =>
      rw [follow_step hv, ih (by simp) hrest]
      rfl

structure IsName (name : String) : Prop where
  point : '.' ∉ name.toList
  mark : '?' ∉ name.toList
  trimmed : trim name.toList = name.toList

instance (name : String) : Decidable (IsName name) :=
  decidable_of_iff ('.' ∉ name.toList ∧ '?' ∉ name.toList ∧ trim name.toList = name.toList)
    ⟨fun h => ⟨h.1, h.2.1, h.2.2⟩, fun h => ⟨h.point, h.mark, h.trimmed⟩⟩

/-- The texts of a path: its names with points between them, and any number of question marks in
front of each point. -/
inductive Spells : List String → List Char → Prop
  | last (name : String) : Spells [name] name.toList
  | more (name : String) (marks : Nat) {names : List String} {s : List Char} (hs : Spells names s) :
      Spells (name :: names) (name.toList ++ List.replicate marks '?' ++ '.' :: s)

theorem pathText_cons (name : String) (hne : names ≠ []) :
    pathText (name :: names) = name.toList ++ '.' :: pathText names := by
  obtain ⟨next, rest, rfl⟩ := List.exists_cons_of_ne_nil hne
  simp [pathText, List.intercalate_cons_cons]

theorem Spells.ne_nil (h : Spells names s) : names ≠ [] := by
  cases h <;> simp

theorem spells_plain (hne : names ≠ []) : Spells names (pathText names) := by
  induction names with
  | nil => exact absurd rfl hne
  | cons name rest ih =>
    by_cases hrest : rest = []
    · subst hrest
      simpa [pathText] using Spells.last name
    · rw [pathText_cons name hrest]
      simpa using Spells.more name 0 (ih hrest)

theorem IsName.unmarked (h : IsName name) : name.toList.filter (· ≠ '?') = name.toList := by
  rw [List.filter_eq_self]
  intro c hc
  rw [decide_eq_true_eq]
  rintro rfl
  exact h.mark hc

theorem Spells.unmarked (h : Spells names s) (hnames : ∀ name ∈ names, IsName name) :
    s.filter (· ≠ '?') = pathText names := by
  induction h with
  | last name => simpa [pathText] using (hnames name (by simp)).unmarked
  | more name marks hs ih =>
    obtain ⟨hname, hrest⟩ := List.forall_mem_cons.mp hnames
    rw [pathText_cons name hs.ne_nil, List.filter_append, List.filter_append, hname.unmarked,
      List.filter_replicate, List.filter_cons, ih hrest]
    simp

theorem IsName.front (h : IsName name) : EndsRun isBlank name.toList := by
  rw [← h.trimmed]
  exact endsRun_dropWhile isBlank _

theorem IsName.back (h : IsName name) : EndsRun isBlank name.toList.reverse := by
  have hright : trimRight name.toList = name.toList := by
    rw [← h.trimmed]
    exact trimRight_trim _
  rw [← hright, trimRight, List.reverse_reverse]
  exact endsRun_dropWhile isBlank _

/-- A point in the middle keeps a text from being trimmed further than there. -/
theorem point_ends {front : List Char} (h : EndsRun isBlank front) (back : List Char) :
    EndsRun isBlank (front ++ '.' :: back) := by
  cases front with
  | nil => rfl
  | cons c front => exact h

theorem pathText_trimmed (hne : names ≠ []) (hnames : ∀ name ∈ names, IsName name) :
    EndsRun isBlank (pathText names) ∧ EndsRun isBlank (pathText names).reverse := by
  induction names with
  | nil => exact absurd rfl hne
  | cons name rest ih =>
    obtain ⟨hname, hrest⟩ := List.forall_mem_cons.mp hnames
    by_cases hnil : rest = []
    · subst hnil
      simpa [pathText] using And.intro hname.front hname.back
    · obtain ⟨-, hback⟩ := ih hnil hrest
      rw [pathText_cons name hnil]
      refine ⟨point_ends hname.front _, ?_⟩
      rw [List.reverse_append, List.reverse_cons, List.append_assoc]
      exact point_ends hback _

/-- The names of a path are read back from each of its texts. -/
theorem Spells.names_read (h : Spells names s) (hnames : ∀ name ∈ names, IsName name) :
    path (String.ofList s) = names := by
  obtain ⟨hfront, hback⟩ := pathText_trimmed h.ne_nil hnames
  have hpoint : ∀ part ∈ names.map String.toList, '.' ∉ part := by
    intro part hpart
    obtain ⟨name, hname, rfl⟩ := List.mem_map.mp hpart
    exact (hnames name hname).point
  have hne : names.map String.toList ≠ [] := by simpa using h.ne_nil
  rw [path, String.toList_ofList, h.unmarked hnames, trim_ends hfront,
    trimRight_solid hback, pathText, List.splitOn_intercalate '.' hpoint hne]
  simp

/-- What a path is titled with below a value does not depend on how the path is spelled. -/
theorem below_spelled (h : Spells names s) (hnames : ∀ name ∈ names, IsName name) (v : Value) :
    t.below v (String.ofList s) = t.follow none v names := by
  rw [below, h.names_read hnames]
  by_cases hv : v.isNull = true
  · rw [if_pos hv, follow_null hv]
  · rw [if_neg hv]

theorem word_name (h : IsWord name.toList) : IsName name := by
  have hlacks : ∀ c, isWordChar c = false → c ∉ name.toList := by
    intro c hc hin
    rw [h.word c hin] at hc
    cases hc
  exact ⟨hlacks '.' (by decide), hlacks '?' (by decide), solid_trim (path_solid (word_path h))⟩

theorem path_text (hnames : FieldPath names) : path (String.ofList (pathText names)) = names :=
  (spells_plain hnames.ne_nil).names_read fun name h => word_name (hnames.words name h)

def root (t : Titles) (head : String) : Value := (t.scope.get? head).getD .null

theorem below_follows (hnames : FieldPath names) (v : Value) :
    t.below v (String.ofList (pathText names)) = t.follow none v names :=
  below_spelled (spells_plain hnames.ne_nil) (fun name h => word_name (hnames.words name h)) v

theorem ofBinding_follows {head : String} (hhead : IsWord head.toList) (hnames : FieldPath names) :
    t.ofBinding (String.ofList (fieldText head.toList names)) =
      t.follow (t.referred t.model head) (t.root head) names := by
  obtain ⟨field, rest, rfl⟩ := List.exists_cons_of_ne_nil hnames.ne_nil
  have hwhole : FieldPath (head :: field :: rest) :=
    ⟨by simp, List.forall_mem_cons.mpr ⟨hhead, hnames.words⟩⟩
  have htext : fieldText head.toList (field :: rest) = pathText (head :: field :: rest) := by
    simp [fieldText, pathText, List.intercalate_cons_cons]
  rw [ofBinding, htext, path_text hwhole]
  rfl

end Titles

end ActionDispatch
