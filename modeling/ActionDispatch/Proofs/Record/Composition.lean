import ActionDispatch.Proofs.Record.Titles

/-!
# Titles behind a path

A path that goes on behind another one is followed from the value that the first one leads to, with
the owner that the fields on the way come to. Where that value is null, or names its entity type,
the owner does not count, and the rest of the path has the title that it has from there.
-/

set_option autoImplicit false

namespace ActionDispatch

theorem Value.reached_null {v : Value} (h : v.isNull = true) (names : List String) :
    (v.reached names).isNull = true := by
  induction names generalizing v with
  | nil => exact h
  | cons field rest ih =>
    cases v with
    | null => exact ih rfl
    | _ => cases h

namespace Titles
open Query Text

variable {t : Titles} {v : Value}

def ownerBehind (t : Titles) (owner : Option String) (v : Value) : List String → Option String
  | [] => owner
  | field :: rest =>
    t.ownerBehind (t.referred (v.model?.orElse fun _ => owner) field)
      ((v.field? field).getD .null) rest

/-- A path is followed as far as its first names lead, and from there on. -/
theorem follow_append {q : List String} (hq : q ≠ []) (p : List String) (owner : Option String) :
    t.follow owner v (p ++ q) = t.follow (t.ownerBehind owner v p) (v.reached p) q := by
  induction p generalizing v owner with
  | nil => rfl
  | cons field p ih =>
    by_cases hv : v.isNull = true
    · rw [follow_null hv, follow_null (Value.reached_null hv (field :: p))]
    · rw [Bool.not_eq_true] at hv
      rw [List.cons_append, follow_on hv (by simp [hq])]
      exact ih _

/-- The title of a path is that of its last names below the value that its first names lead to, if
this value is null or names its entity type. Question marks in front of the points of a path do not
matter. -/
theorem title_composes (t : Titles) (root : Value) (p q : List String) (hq : q ≠ [])
    (hnames : ∀ name ∈ p ++ q, IsName name) :
    ((root.reached p).Anchored →
      t.below root (String.ofList (pathText (p ++ q))) =
        t.below (root.reached p) (String.ofList (pathText q))) ∧
    ∀ s, Spells (p ++ q) s →
      t.below root (String.ofList s) = t.below root (String.ofList (pathText (p ++ q))) := by
  have hlast : ∀ name ∈ q, IsName name := fun name h => hnames name (List.mem_append_right p h)
  have hwhole : Spells (p ++ q) (pathText (p ++ q)) := spells_plain (by simp [hq])
  constructor
  · intro hanchored
    calc t.below root (String.ofList (pathText (p ++ q)))
        = t.follow none root (p ++ q) := below_spelled hwhole hnames root
      _ = t.follow (t.ownerBehind none root p) (root.reached p) q := follow_append hq p none
      _ = t.follow none (root.reached p) q := follow_anchored hanchored _ none q
      _ = t.below (root.reached p) (String.ofList (pathText q)) :=
        (below_spelled (spells_plain hq) hlast _).symm
  · intro s hs
    rw [below_spelled hs hnames, below_spelled hwhole hnames]

theorem title_composes_line :
    let line : Value := .map [("_model", .string "OrderLine"), ("kind", .string "CODE1")]
    let order : Value := .map [("_model", .string "Order"), ("line", line)]
    let t : Titles :=
      { model := none
        scope := Table.empty
        property? := Mapping.property?
          (Mapping.ofModels [("OrderLine", [("kind", ⟨"kind", none, some "line.kind"⟩)])])
        title? := Catalog.title? (Catalog.register Table.empty "line.kind" "CODE1" "Label One") }
    t.below order "line?.kind" = t.below line "kind" ∧ t.below line "kind" = "Label One" := by
  intro line order t
  obtain ⟨hcomposed, hspelled⟩ :=
    title_composes t order ["line"] ["kind"] (by decide) (by decide)
  have hline : order.reached ["line"] = line := rfl
  have hplain : String.ofList (pathText ["kind"]) = "kind" := by decide
  have hmarked : Spells (["line"] ++ ["kind"]) "line?.kind".toList :=
    .more "line" 1 (.last "kind")
  have hwhole := hspelled _ hmarked
  rw [String.ofList_toList, hcomposed (.inr rfl), hline, hplain] at hwhole
  exact ⟨hwhole, by decide⟩

end Titles

end ActionDispatch
