import ActionDispatch.Proofs.Record.Titles
import ActionDispatch.Proofs.Template.Titles

/-!
# Titles of paths

A path behind a name, in front of the filter for titles, is followed below the value of the name.
There the entity type of the template is not known any more, so that a record that does not name its
own type is titled by the codes it has. The formatter, asked for the whole path, begins with the
type of the template. The two agree from the first record on that names its type, and where the type
of the template knows of no type behind the name.
-/

set_option autoImplicit false

namespace ActionDispatch.Template
open Script Text Query

variable {head : String} {names : List String} {t : Titles} {inner : Script.Host Event}

def pathBody (head : String) (names : List String) : List Char :=
  fieldText head.toList names ++ " | text".toList

def pathScript (head : String) (names : List String) : List Char :=
  titleCall (head.toList ++ ", ".toList ++ spliced (pathText names))

theorem fieldText_path (hhead : IsWord head.toList) (hnames : FieldPath names) :
    IsPath (fieldText head.toList names) := by
  refine ⟨by simp [fieldText], fun c hc => ?_⟩
  rcases List.mem_append.mp hc with hc | hc
  · exact (word_path hhead).path c hc
  · rcases List.mem_cons.mp hc with rfl | hc
    · rfl
    · exact (pathText_isPath hnames).path c hc

theorem path_lacks {s : List Char} {c : Char} (hs : IsPath s) (hc : isPathChar c = false) :
    c ∉ s := by
  intro hin
  rw [hs.path c hin] at hc
  cases hc

theorem pathText_plain (hnames : FieldPath names) : Plain (pathText names) :=
  ⟨path_lacks (pathText_isPath hnames) (by decide), path_lacks (pathText_isPath hnames) (by decide)⟩

theorem pathBody_filter (hhead : IsWord head.toList) (hnames : FieldPath names) :
    splitFilter? (pathBody head names) = some (fieldText head.toList names, .text) := by
  have hsolid := path_solid (fieldText_path hhead hnames)
  have hspace : Blanks [' '] := by decide
  have hsplit : pathBody head names =
      (fieldText head.toList names ++ [' ']) ++ '|' :: " text".toList := by
    simp [pathBody]
  have hlast : (fieldText head.toList names ++ [' ']).getLast? ≠ some '|' := by simp
  have htrim := trim_blanks (w := []) (by decide) hspace hsolid
  rw [List.nil_append] at htrim
  rw [hsplit, splitFilter_bar (by decide), if_neg hlast, htrim]
  rfl

theorem fieldText_rooted (hhead : IsWord head.toList) (hnames : FieldPath names) :
    Rooted (fieldText head.toList names) head.toList (pathText names) :=
  ⟨.inl rfl, hhead, (pathText_isPath hnames).ne_nil,
    path_lacks (pathText_isPath hnames) (by decide)⟩

theorem pathBody_expanded (hhead : IsWord head.toList) (hnames : FieldPath names) (xml : Bool) :
    expand xml (pathBody head names) =
      if xml then escaped (pathScript head names) else pathScript head names := by
  have hscript : expandFilter (pathBody head names) = pathScript head names :=
    expand_rooted (pathBody_filter hhead hnames) (fieldText_rooted hhead hnames)
  rw [expand, hscript]
  rfl

theorem pathBody_closed (hhead : IsWord head.toList) (hnames : FieldPath names) :
    Closed (pathBody head names) := by
  have hpath := fieldText_path hhead hnames
  have hfilter : Closed " | text".toList := by decide
  refine closed_append (inert_passed fun c hc hin => ?_) hfilter
  have hall : ['\'', '"', '\x7b', '\x7d'].all (!isPathChar ·) = true := by decide
  have hno := List.all_eq_true.mp hall c hin
  simp [hpath.path c hc] at hno

theorem pathScript_parses (hname : isFreeName head = true) (hnames : FieldPath names) :
    parse (String.ofList (pathScript head names)) =
      .ok (titleOf [.name head, .literal (.string (String.ofList (pathText names)))]) := by
  have hplain : Plain (String.ofList (pathText names)).toList := by
    rw [String.toList_ofList]
    exact pathText_plain hnames
  have hparse := (rooted_title hname (String.ofList (pathText names))).mpr hplain
  rwa [String.toList_ofList (l := pathText names)] at hparse

theorem pathScript_nesting (hname : isFreeName head = true) (hnames : FieldPath names) :
    nesting (pathScript head names) + 2 ≤ maxNesting := by
  rw [nesting_marks, pathScript, title_marks, rooted_marks hname (pathText_plain hnames)]
  decide

/-- The formatter is asked for a path below a value, of whatever kind the value is. -/
theorem format_below (t : Titles) (v : Value) (path : String) :
    format t "text" [v, .string path] = pure (.string (t.below v path)) := by
  cases v <;> rfl

theorem pathScript_evaluates (inner : Script.Host Event) (hname : isFreeName head = true)
    (hnames : FieldPath names) (hfree : t.scope.contains formatterName = false) :
    Script.evaluate (String.ofList (pathScript head names)) t.scope (host t inner) =
      pure (.string (t.below (t.root head) (String.ofList (pathText names)))) := by
  have hpath : (Expr.name formatterName).staticPath? t.scope = some formatterName := by
    simp [Expr.staticPath?, hfree]
  rw [evaluate_parsed (pathScript_parses hname hnames)]
  simp only [titleOf, Expr.eval, hpath, evalAll]
  exact format_below t (t.root head) _

/-- The interpolation shows the title of the path below the value of the name, in any template. -/
theorem path_segment (hname : isFreeName head = true) (hhead : IsWord head.toList)
    (hnames : FieldPath names) (hfree : t.scope.contains formatterName = false) (xml : Bool) :
    renderSegment t.scope (host t inner)
      ((Segment.interpolation (pathBody head names)).expanded xml) =
      pure (valueText xml (.string (t.below (t.root head) (String.ofList (pathText names))))) := by
  have hevaluates := pathScript_evaluates inner hname hnames hfree
  rw [Segment.expanded, pathBody_expanded hhead hnames]
  cases xml with
  | false =>
    simp only [renderSegment, Bool.false_eq_true, if_false, hevaluates]
    rfl
  | true =>
    have hescaped := escaped_evaluates t inner hfree (pathScript_parses hname hnames)
      (pathScript_nesting hname hnames)
    simp only [renderSegment, if_true, hescaped, hevaluates]
    rfl

def pathTemplate (head : String) (names : List String) : String :=
  String.ofList (Segment.interpolation (pathBody head names)).source

theorem pathTemplate_segments (hhead : IsWord head.toList) (hnames : FieldPath names)
    (xmlEscape : Bool) :
    segments (preprocess xmlEscape (pathTemplate head names)).toList =
      [(Segment.interpolation (pathBody head names)).expanded false] := by
  have hsegments := segments_alone (pathBody_closed hhead hnames)
  have hxml : isXml (Segment.interpolation (pathBody head names)).source = false :=
    isXml_dollar [] _
  have hclosed : ∀ body,
      .interpolation body ∈ segments (Segment.interpolation (pathBody head names)).source →
      Closed (expand false body) := by
    rw [hsegments]
    intro body hbody
    cases List.mem_singleton.mp hbody
    refine expand_closed false (pathBody_closed hhead hnames) fun expr hfilter => ?_
    rw [pathBody_filter hhead hnames] at hfilter
    cases hfilter
    have hpath := fieldText_path hhead hnames
    exact ⟨path_lacks hpath (by decide), path_lacks hpath (by decide)⟩
  rw [preprocess_toList, pathTemplate, String.toList_ofList, hxml, Bool.and_false,
    segments_expanded hclosed, hsegments]
  rfl

theorem path_template (hname : isFreeName head = true) (hhead : IsWord head.toList)
    (hnames : FieldPath names) (hfree : t.scope.contains formatterName = false) (xmlEscape : Bool) :
    render (preprocess xmlEscape (pathTemplate head names)) t.scope (host t inner) =
      pure (t.below (t.root head) (String.ofList (pathText names))) := by
  rw [render, pathTemplate_segments hhead hnames]
  simp only [Run.forEach, path_segment hname hhead hnames hfree]
  have hshown : ([valueText false (.string (t.below (t.root head)
      (String.ofList (pathText names))))] : List (List Char)).flatten =
        (t.below (t.root head) (String.ofList (pathText names))).toList := List.flatten_singleton
  show pure (String.ofList _) = _
  rw [hshown, String.ofList_toList]

/-- The interpolation of a path shows its title below the value of its first name. That is the title
of the whole path, if the type of the template refers to nothing by that name, or if a record on the
way names its own type or is null. Otherwise it is the plain text of the value at the end, which the
whole path titles by the field that the type of the template leads to. -/
theorem path_titled_below (t : Titles) (inner : Script.Host Event) (head : String)
    (names : List String)
    (hname : isFreeName head = true) (hhead : IsWord head.toList) (hnames : FieldPath names)
    (hfree : t.scope.contains formatterName = false) :
    let whole := String.ofList (fieldText head.toList names)
    let below := t.below (t.root head) (String.ofList (pathText names))
    ((∀ xmlEscape, render (preprocess xmlEscape (pathTemplate head names)) t.scope (host t inner) =
        pure below) ∧
      ∀ xml, renderSegment t.scope (host t inner)
        ((Segment.interpolation (pathBody head names)).expanded xml) =
          pure (valueText xml (.string below))) ∧
    (t.referred t.model head = none ∨ (∃ v ∈ (t.root head).passed names, v.Anchored) →
      below = t.ofBinding whole) ∧
    ((∀ v ∈ (t.root head).passed names, ¬v.Anchored) →
      below = t.label none ((t.root head).reached names) ∧
      t.ofBinding whole =
        t.label (t.lastProperty (t.referred t.model head) names)
          ((t.root head).reached names)) := by
  intro whole below
  have hbelow : below = t.follow none (t.root head) names := Titles.below_follows hnames _
  have hwhole : t.ofBinding whole = t.follow (t.referred t.model head) (t.root head) names :=
    Titles.ofBinding_follows hhead hnames
  refine ⟨⟨path_template hname hhead hnames hfree, path_segment hname hhead hnames hfree⟩, ?_, ?_⟩
  · rintro (hnone | hanchored)
    · rw [hbelow, hwhole, hnone]
    · rw [hbelow, hwhole]
      exact Titles.follow_owners hanchored _ _
  · intro hplain
    rw [hbelow, hwhole, Titles.follow_unanchored hnames.ne_nil hplain,
      Titles.follow_unanchored hnames.ne_nil hplain, Titles.lastProperty_none]
    exact ⟨rfl, rfl⟩

def orderTitles (line : Value) : Titles where
  model := some "Order"
  scope := [("line", line)]
  property? := Mapping.property? (Mapping.ofModels
    [("Order", [("line", ⟨"line", some "OrderLine", none⟩)]),
      ("OrderLine", [("kind", ⟨"kind", none, some "line.kind"⟩)])])
  title? := Catalog.title? (Catalog.register Table.empty "line.kind" "CODE1" "Label One")

theorem path_titled_below_tagged :
    let line : Value := .map [("_model", .string "OrderLine"), ("kind", .string "CODE1")]
    let t := orderTitles line
    render (preprocess true "$\x7bline.kind | text\x7d") t.scope (host t .detached) =
      pure "Label One" ∧
      t.ofBinding "line.kind" = "Label One" := by
  intro line t
  have htemplate : pathTemplate "line" ["kind"] = "$\x7bline.kind | text\x7d" := by decide
  have hwhole : String.ofList (fieldText "line".toList ["kind"]) = "line.kind" := by decide
  obtain ⟨⟨hrender, -⟩, hagree, -⟩ :=
    path_titled_below t .detached "line" ["kind"] (by decide) (by decide) (by decide) (by decide)
  have htitle : t.ofBinding "line.kind" = "Label One" := by decide
  have hbelow := hagree (.inr ⟨line, by simp [line, t, orderTitles, Titles.root, Value.passed,
    Table.get?], by decide⟩)
  rw [hwhole, htitle] at hbelow
  rw [← htemplate, hrender true, hbelow]
  exact ⟨rfl, htitle⟩

/-- A line that does not is shown with its code, where the whole path has a title. -/
theorem untagged_line_untitled :
    let t := orderTitles (.map [("kind", .string "CODE1")])
    render (preprocess true "$\x7bline.kind | text\x7d") t.scope (host t .detached) = pure "CODE1" ∧
      t.ofBinding "line.kind" = "Label One" := by
  intro t
  have htemplate : pathTemplate "line" ["kind"] = "$\x7bline.kind | text\x7d" := by decide
  have hnames : FieldPath ["kind"] := by decide
  have hrender : render (preprocess true (pathTemplate "line" ["kind"])) t.scope
      (host t .detached) =
      pure (t.below (t.root "line") (String.ofList (pathText ["kind"]))) :=
    path_template (by decide) (by decide) hnames (by decide) true
  have hbelow : t.below (t.root "line") (String.ofList (pathText ["kind"])) = "CODE1" := by decide
  rw [htemplate, hbelow] at hrender
  exact ⟨hrender, by decide⟩

end ActionDispatch.Template
