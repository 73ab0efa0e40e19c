import ActionDispatch.Proofs.Script.Evaluation
import ActionDispatch.Proofs.Template.Expansion
import ActionDispatch.Template.Render

/-!
# Parts of templates

A template of text, of accepted scripts, and of such scripts in front of the filter that shows
nothing for what does not count as true. What each part shows is said without a rewritten text, and
the expanded segment of the part shows just that.
-/

set_option autoImplicit false

namespace ActionDispatch.Template
open Script Text

/-- A script that is accepted, not so deeply nested that what is put around it would be too deep. -/
structure Body where
  text : List Char
  tree : Expr
  parses : parse (String.ofList text) = .ok tree
  shallow : nesting text ≤ 60

inductive Part where
  | text (s : List Char)
  | script (body : Body)
  | filtered (body : Body) (gap name : List Char) (hgap : Blanks gap) (hname : trim name = ['e'])

def Part.segment : Part → Segment
  | .text s => .text s
  | .script body => .interpolation body.text
  | .filtered body gap name _ _ => .interpolation (body.text ++ gap ++ '|' :: name)

variable {Event₀ : Type}

def Body.value (body : Body) (scope : Table Value) (host : Script.Host Event₀) :
    Run Event₀ ScriptError Value :=
  Script.evaluate (String.ofList body.text) scope host

def valueText (xml : Bool) (value : Value) : List Char :=
  (if xml then escapeValue value else value.text).toList

def Part.shown (xml : Bool) (scope : Table Value) (host : Script.Host Event₀) :
    Part → Run Event₀ ScriptError (List Char)
  | .text s => return s
  | .script body => do return valueText xml (← body.value scope host)
  | .filtered body _ _ _ _ => do
    let value ← body.value scope host
    return if value.truthy then valueText xml value else []

variable {gap name : List Char} {xml : Bool}

theorem script_expanded (xml : Bool) (body : Body) :
    expand xml body.text = if xml then escaped body.text else body.text := by
  simp only [expand, expandFilter, script_no_filter body.parses, escaped]

theorem filtered_expanded (xml : Bool) (body : Body) (hgap : Blanks gap)
    (hname : trim name = ['e']) :
    expand xml (body.text ++ gap ++ '|' :: name) =
      if xml then escaped (defaulted body.text) else defaulted body.text := by
  simp only [expand, expandFilter, script_filtered body.parses hgap hname, escaped, defaulted]

theorem escaped_closed {s : List Char} (hs : Closed s) : Closed (escaped s) := by
  have hfront : Closed (formatterName.toList ++ ".escape(".toList) := by decide
  have hback : Closed [')'] := by decide
  exact closed_append (closed_append hfront hs) hback

theorem blank_inert {c : Char} (hc : isBlank c = true) : Inert c :=
  class_inert (by decide) hc

theorem trim_closed {s : List Char} (hs : Closed s) : Closed (trim s) := by
  obtain ⟨w, v, hw, hv, -, haround⟩ := blanks_around s
  rw [haround, List.append_assoc, closed_behind fun c hc => blank_inert (hw c hc)] at hs
  exact closed_front (fun c hc => blank_inert (hv c hc)) hs

theorem defaulted_closed {s : List Char} (hs : Closed s) : Closed (defaulted s) := by
  have hfront : Closed ['('] := by decide
  have hback : Closed ") ?: ''".toList := by decide
  exact closed_append (closed_append hfront (trim_closed hs)) hback

/-- The name of a filter is not read as part of a string or of a brace in front of it. -/
theorem name_inert {filter : Filter} (h : Filter.ofName? (trim name) = some filter) :
    ∀ c ∈ '|' :: name, Inert c := by
  have hnames := named_iff.mp (Option.ne_none_iff_exists'.mpr ⟨filter, h⟩)
  have hletters : ∀ c ∈ trim name, Inert c := by
    rcases hnames with hname | hname <;> rw [hname] <;> simp [Inert]
  obtain ⟨w, v, hw, hv, -, haround⟩ := blanks_around name
  rw [haround]
  intro c hc
  simp only [List.mem_append, List.mem_cons] at hc
  rcases hc with rfl | (hc | hc) | hc
  · simp [Inert]
  · exact blank_inert (hw c hc)
  · exact hletters c hc
  · exact blank_inert (hv c hc)

theorem filter_inert (hgap : Blanks gap) (hname : trim name = ['e']) :
    ∀ c ∈ gap ++ '|' :: name, Inert c := by
  have hfilter : Filter.ofName? (trim name) = some .empty := by rw [hname]; rfl
  intro c hc
  rcases List.mem_append.mp hc with hc | hc
  · exact blank_inert (hgap c hc)
  · exact name_inert hfilter c hc

theorem part_closed {part : Part} {body : List Char} (hpart : part.segment = .interpolation body)
    (h : Closed body) (xml : Bool) : Closed (expand xml body) := by
  cases part with
  | text s => cases hpart
  | script script =>
    cases hpart
    rw [script_expanded]
    cases xml with
    | false => exact h
    | true => exact escaped_closed h
  | filtered script gap name hgap hname =>
    cases hpart
    rw [List.append_assoc] at h
    have hbody := defaulted_closed (closed_front (filter_inert hgap hname) h)
    rw [filtered_expanded xml script hgap hname]
    cases xml with
    | false => exact hbody
    | true => exact escaped_closed hbody

variable {scope : Table Value} {t : List Char} {e : Expr}

theorem escaped_evaluates (titles : Titles) (inner : Script.Host Event)
    (hfree : scope.contains formatterName = false) (h : parse (String.ofList t) = .ok e)
    (hn : nesting t + 2 ≤ maxNesting) :
    Script.evaluate (String.ofList (escaped t)) scope (host titles inner) =
      (Script.evaluate (String.ofList t) scope (host titles inner) >>= fun value =>
        pure (.string (escapeValue value))) := by
  have hpath : (Expr.name formatterName).staticPath? scope = some formatterName := by
    simp [Expr.staticPath?, hfree]
  rw [evaluate_parsed (escaped_parses h hn), evaluate_parsed h]
  simp only [Expr.eval, hpath, evalAll, Run.bind_bind]
  rfl

theorem defaulted_evaluates (scope : Table Value) (host : Script.Host Event₀)
    (h : parse (String.ofList t) = .ok e) (hn : nesting t < maxNesting) :
    Script.evaluate (String.ofList (defaulted t)) scope host =
      (Script.evaluate (String.ofList t) scope host >>= fun value =>
        pure (if value.truthy then value else .string "")) := by
  rw [evaluate_parsed (defaulted_parses h hn), evaluate_parsed h]
  simp only [Expr.eval]
  congr 1
  funext value
  split <;> rfl

theorem valueText_default (xml : Bool) (value : Value) :
    valueText xml (if value.truthy then value else .string "") =
      if value.truthy then valueText xml value else [] := by
  split
  next => rfl
  next => cases xml <;> decide

/-- The expanded segment of a part shows what the part shows. -/
theorem part_shown (titles : Titles) (inner : Script.Host Event)
    (hfree : scope.contains formatterName = false) (xml : Bool) (part : Part) :
    renderSegment scope (host titles inner) (part.segment.expanded xml) =
      part.shown xml scope (host titles inner) := by
  have hlimit : maxNesting = 64 := rfl
  cases part with
  | text s => rfl
  | script body =>
    have hshallow := body.shallow
    rw [Part.segment, Segment.expanded, script_expanded]
    cases xml with
    | false => rfl
    | true =>
      have hescaped := escaped_evaluates titles inner hfree body.parses (by omega)
      simp only [renderSegment, if_true, hescaped, Run.bind_bind]
      rfl
  | filtered body gap name hgap hname =>
    have hshallow := body.shallow
    have hdefaulted := defaulted_evaluates scope (host titles inner) body.parses (by omega)
    rw [Part.segment, Segment.expanded, filtered_expanded xml body hgap hname]
    simp only [Part.shown, ← valueText_default]
    cases xml with
    | false =>
      simp only [renderSegment, Bool.false_eq_true, if_false, hdefaulted, Run.bind_bind]
      rfl
    | true =>
      have hparses := defaulted_parses body.parses (by omega)
      have hroom : nesting (defaulted body.text) + 2 ≤ maxNesting := by
        rw [defaulted_nesting body.parses]
        omega
      have hescaped := escaped_evaluates titles inner hfree hparses hroom
      simp only [renderSegment, if_true, hescaped, hdefaulted, Run.bind_bind]
      rfl

end ActionDispatch.Template
