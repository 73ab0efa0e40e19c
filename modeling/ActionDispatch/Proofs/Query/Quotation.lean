import ActionDispatch.Proofs.Query.Acceptance

/-!
# Quoted operands

A text of conditions is split before its literals are read, so that an `AND` between white space
counts as one inside quotes too. Conditions that compare fields with quoted texts are read as they
are meant just where none of the texts holds such an `AND`, and are refused where one of them does.
-/

set_option autoImplicit false

namespace ActionDispatch.Query
open Text

structure Quotation where
  field : String
  text : String

namespace Quotation

def opening (p : Quotation) : List Char :=
  fieldText defaultName [p.field] ++ [' ', '=', ' ', '\'']

def spelled (p : Quotation) : List Char :=
  p.opening ++ (p.text.toList ++ ['\''])

def condition (p : Quotation) : Condition :=
  ⟨[p.field], false, .literal (.string p.text)⟩

def joined (ps : List Quotation) : List Char :=
  " AND ".toList.intercalate (ps.map spelled)

structure Valid (p : Quotation) : Prop where
  field : IsWord p.field.toList
  text : '\'' ∉ p.text.toList

end Quotation

theorem opening_read {p : Quotation} (hp : p.Valid) (s : List Char) :
    Condition.parse defaultName (p.opening ++ s) =
      (Operand.parse ('\'' :: trimRight s)).map fun operand => ⟨[p.field], false, operand⟩ := by
  have htrim : trim (' ' :: '\'' :: s) = '\'' :: trimRight s := by
    rw [← trim_trimLeft, show trimLeft (' ' :: '\'' :: s) = '\'' :: s from rfl, trim,
      trimRight_cons (by decide), trimLeft_solid (ends_cons (by decide))]
  have hfield : FieldPath [p.field] := ⟨by simp, by simpa using hp.field⟩
  have hname : IsWord defaultName := by decide
  have hgap : Blanks [' '] := by decide
  have hread := comparison_read (s := ' ' :: '\'' :: s) hname (pathText_isPath hfield) hgap false
    (by simp [htrim])
  have htext : p.opening ++ s = defaultName ++ '.' :: (pathText [p.field] ++
      ([' '] ++ (operatorText false ++ (' ' :: '\'' :: s)))) := by
    simp [Quotation.opening, fieldText, operatorText]
  rw [htext, Condition.parse, hread, htrim]
  simp [pathNames_text hfield]

theorem spelled_read {p : Quotation} (hp : p.Valid) :
    Condition.parse defaultName p.spelled = .ok p.condition := by
  have hlast : trimRight (p.text.toList ++ ['\'']) = p.text.toList ++ ['\''] :=
    trimRight_solid (by simpa using ends_cons (by decide))
  rw [Quotation.spelled, opening_read hp, hlast, operand_closed (.inl rfl)]
  simp [Except.map, Quotation.condition]

theorem opening_unread {p : Quotation} (hp : p.Valid) {s : List Char} (hs : s <+: p.text.toList) :
    ∃ reason, Condition.parse defaultName (p.opening ++ s) = .error (.invalid reason) := by
  have hquote : '\'' ∉ trimRight s := fun h =>
    hp.text (hs.subset ((trimRight_front s).subset h))
  rw [opening_read hp, operand_open (.inl rfl) hquote]
  exact ⟨_, rfl⟩

theorem conjuncts_opening {p : Quotation} (hp : p.Valid) {s part : List Char}
    {parts : List (List Char)} (hs : conjuncts s = part :: parts) :
    conjuncts (p.opening ++ s) = (p.opening ++ part) :: parts := by
  have hfield : ∀ c ∈ fieldText defaultName [p.field], isBlank c = false := by
    intro c hc
    have hself : IsWord defaultName := by decide
    have hpath : FieldPath [p.field] := ⟨by simp, by simpa using hp.field⟩
    simp only [fieldText, List.mem_append, List.mem_cons] at hc
    obtain hc | rfl | hc := hc
    · exact word_not_blank (hself.word c hc)
    · decide
    · exact path_not_blank ((pathText_isPath hpath).path c hc)
  have hquote := conjuncts_dense (dense_single (c := '\'') rfl) hs
  have hoperand := conjuncts_blanks (w := [' ']) (by decide) (ends_cons (by decide)) rfl hquote
  have hoperator := conjuncts_dense (dense_single (c := '=') rfl) hoperand
  have hwhole := conjuncts_dense hfield
    (conjuncts_blanks (w := [' ']) (by decide) (ends_cons (by decide)) rfl hoperator)
  simpa [Quotation.opening] using hwhole

theorem conjuncts_spelled {p : Quotation} (hp : p.Valid) (hand : ¬HoldsAnd p.text.toList)
    {s part : List Char} {parts : List (List Char)} (hs : conjuncts s = part :: parts) :
    conjuncts (p.spelled ++ s) = (p.spelled ++ part) :: parts := by
  have hquote := conjuncts_dense (dense_single (c := '\'') rfl) hs
  have htext := conjuncts_whole (by decide) (by decide) hand hquote
  simpa [Quotation.spelled] using conjuncts_opening hp htext

theorem joined_cons {p : Quotation} {ps : List Quotation} (hps : ps ≠ []) :
    Quotation.joined (p :: ps) = p.spelled ++ (" AND ".toList ++ Quotation.joined ps) := by
  obtain ⟨q, ps, rfl⟩ := List.exists_cons_of_ne_nil hps
  simp [Quotation.joined, List.intercalate_cons_cons]

theorem spelled_solid (p : Quotation) : Solid p.spelled := by
  have hself : IsWord defaultName := by decide
  have hname : Solid defaultName := path_solid (word_path hself)
  have hquote : Solid ['\''] := dense_solid (List.cons_ne_nil _ _) (dense_single rfl)
  simpa [Quotation.spelled, Quotation.opening, fieldText] using
    solid_around hname ('.' :: pathText [p.field] ++ [' ', '=', ' ', '\''] ++ p.text.toList) hquote

theorem joined_solid {ps : List Quotation} (hne : ps ≠ []) : Solid (Quotation.joined ps) := by
  induction ps with
  | nil => exact absurd rfl hne
  | cons p ps ih =>
    by_cases hps : ps = []
    · subst hps
      simpa [Quotation.joined] using spelled_solid p
    · rw [joined_cons hps]
      exact solid_around (spelled_solid p) _ (ih hps)

theorem conjuncts_behind {ps : List Quotation} (hps : ps ≠ []) :
    conjuncts (" AND ".toList ++ Quotation.joined ps) = [] :: conjuncts (Quotation.joined ps) := by
  have hgap : Gap [' '] := by decide
  have hand : Keyword "and" "AND".toList := rfl
  exact conjuncts_and hgap hand hgap (joined_solid hps).first

theorem joined_read {ps : List Quotation} (hne : ps ≠ []) (hvalid : ∀ p ∈ ps, p.Valid)
    (hand : ∀ p ∈ ps, ¬HoldsAnd p.text.toList) :
    Condition.parseAll defaultName (Quotation.joined ps) = .ok (ps.map Quotation.condition) := by
  have hparts : conjuncts (Quotation.joined ps) = ps.map Quotation.spelled := by
    induction ps with
    | nil => exact absurd rfl hne
    | cons p ps ih =>
      obtain ⟨hp, hps⟩ := List.forall_mem_cons.mp hvalid
      obtain ⟨hpand, hpsand⟩ := List.forall_mem_cons.mp hand
      by_cases hempty : ps = []
      · subst hempty
        have hnil : conjuncts [] = [[]] := by rw [conjuncts]
        simpa [Quotation.joined] using conjuncts_spelled hp hpand hnil
      · rw [joined_cons hempty, conjuncts_spelled hp hpand (conjuncts_behind hempty),
          ih hempty hps hpsand, List.append_nil, List.map_cons]
  rw [Condition.parseAll, solid_trim (joined_solid hne), hparts]
  clear hparts hand hne
  induction ps with
  | nil => rfl
  | cons p ps ih =>
    obtain ⟨hp, hps⟩ := List.forall_mem_cons.mp hvalid
    rw [List.map_cons, List.mapM_cons, spelled_read hp, ih hps]
    rfl

/-- The first text with an `AND` is torn in two, and what is left of it in front of the `AND` is not
a literal. -/
theorem joined_unread {ps : List Quotation} (hvalid : ∀ p ∈ ps, p.Valid)
    (hand : ∃ p ∈ ps, HoldsAnd p.text.toList) :
    ∃ reason, Condition.parseAll defaultName (Quotation.joined ps) = .error (.invalid reason) := by
  have hne : ps ≠ [] := by
    rintro rfl
    simp at hand
  rw [Condition.parseAll, solid_trim (joined_solid hne)]
  induction ps with
  | nil => exact absurd rfl hne
  | cons p ps ih =>
    obtain ⟨hp, hps⟩ := List.forall_mem_cons.mp hvalid
    by_cases hpand : HoldsAnd p.text.toList
    · obtain ⟨rest, hrest⟩ : ∃ rest, Quotation.joined (p :: ps) =
          p.opening ++ (p.text.toList ++ rest) := by
        by_cases hempty : ps = []
        · exact ⟨['\''], by simp [hempty, Quotation.joined, Quotation.spelled]⟩
        · exact ⟨_, by rw [joined_cons hempty, Quotation.spelled, List.append_assoc,
            List.append_assoc]⟩
      obtain ⟨part, parts, hpart, hparts⟩ := conjuncts_broken hpand rest
      obtain ⟨reason, hreason⟩ := opening_unread hp hpart
      rw [hrest, conjuncts_opening hp hparts, List.mapM_cons, hreason]
      exact ⟨reason, rfl⟩
    · have hlater : ∃ p ∈ ps, HoldsAnd p.text.toList := by
        simpa [hpand] using hand
      have hempty : ps ≠ [] := by
        rintro rfl
        simp at hlater
      obtain ⟨reason, hreason⟩ := ih hps hlater hempty
      rw [joined_cons hempty, conjuncts_spelled hp hpand (conjuncts_behind hempty), List.append_nil,
        List.mapM_cons, spelled_read hp, hreason]
      exact ⟨reason, rfl⟩

inductive Select.Front : String → List String → List Char → Prop
  | intro {model : String} {projection : List String} {lead k g g' k' g'' a h w h' : List Char}
      (hlead : Blanks lead) (hk : Keyword "select" k) (hg : Gap g)
      (hp : projection = [] ∨ FieldPath projection) (hg' : Gap g') (hk' : Keyword "from" k')
      (hg'' : Gap g'') (hm : IsPath model.toList) (ha : Alias defaultName a) (hh : Gap h)
      (hw : Keyword "where" w) (hh' : Gap h') :
      Front model projection (lead ++ (k ++ (g ++ (projectionText defaultName projection ++
        (g' ++ k' ++ g'' ++ (model.toList ++ (a ++ (h ++ w ++ h'))))))))

theorem alias_read {a h w h' body t : List Char} (ha : Alias defaultName a) (hh : Gap h)
    (hw : Keyword "where" w) (hh' : Gap h') (hbody : Solid body) (ht : Blanks t)
    (hno : afterKeyword? "where".toList (body ++ t) = none) :
    ∃ name, behindModel? (a ++ (h ++ w ++ h' ++ (body ++ t))) = some (name, some body) ∧
      name.getD defaultName = defaultName := by
  cases ha with
  | given hg hr =>
    have hends : EndsRun isWordChar (h ++ w ++ h' ++ (body ++ t)) := by
      simpa using gap_ends_word hh (w ++ h' ++ (body ++ t))
    refine ⟨some defaultName, ?_, rfl⟩
    rw [List.append_assoc]
    exact behind_alias hg hr hends (ending_where hh hw hh' hbody ht)
  | omitted => exact ⟨none, behind_where hh hw hh' hbody ht hno, rfl⟩

theorem front_read {model : String} {projection : List String} {front body t : List Char}
    (h : Select.Front model projection front) (hbody : Solid body) (ht : Blanks t)
    (hno : afterKeyword? "where".toList (body ++ t) = none) :
    Select.parse (String.ofList (front ++ (body ++ t))) =
      (Condition.parseAll defaultName body).map (⟨model, projection, ·⟩) := by
  cases h with
  | @intro lead k g g' k' g'' a h w h' hlead hk hg hp hg' hk' hg'' hm ha hh hw hh' =>
    obtain ⟨name, hbehind, hname⟩ := alias_read ha hh hw hh' hbody ht hno
    have hends : EndsRun isPathChar (a ++ (h ++ w ++ h' ++ (body ++ t))) := by
      cases ha with
      | given hg => simpa using gap_ends_path hg (defaultName ++ (h ++ w ++ h' ++ (body ++ t)))
      | omitted => simpa using gap_ends_path hh (w ++ h' ++ (body ++ t))
    have hclauses := clauses_read hlead hk hg (projection_isPath (alias_word ha) hp) hg' hk' hg'' hm
      hends hbehind
    rw [Select.parse_eq]
    simp only [String.toList_ofList, List.append_assoc] at hclauses ⊢
    rw [hclauses]
    simp only [hname, projection_read _ hp, readConditions, String.ofList_toList]

theorem filter_read {filter : List Char} (hsolid : Solid filter) (model : String)
    (params : List Value) :
    Select.ofQuery ⟨model, some (String.ofList filter), params⟩ =
      (Condition.parseAll defaultName filter).map (⟨model, [], ·⟩) := by
  have hne : filter.isEmpty = false := by simpa using hsolid.ne_nil
  simp [Select.ofQuery, solid_trim hsolid, hne]

/-- Fields compared with quoted texts are read as just these conditions, as a filter and behind any
front of a select text, where no text holds an `AND` between white space. Where one does, every such
query is refused as invalid. -/
theorem quoted_conditions_read {ps : List Quotation} (hne : ps ≠ []) (hvalid : ∀ p ∈ ps, p.Valid) :
    ((∀ p ∈ ps, ¬HoldsAnd p.text.toList) →
      (∀ model params,
        Select.ofQuery ⟨model, some (String.ofList (Quotation.joined ps)), params⟩ =
          .ok ⟨model, [], ps.map Quotation.condition⟩) ∧
      ∀ model projection front t, Select.Front model projection front → Blanks t →
        Select.parse (String.ofList (front ++ (Quotation.joined ps ++ t))) =
          .ok ⟨model, projection, ps.map Quotation.condition⟩) ∧
    ((∃ p ∈ ps, HoldsAnd p.text.toList) →
      (∀ model params, ∃ reason,
        Select.ofQuery ⟨model, some (String.ofList (Quotation.joined ps)), params⟩ =
          .error (.invalid reason)) ∧
      ∀ model projection front t, Select.Front model projection front → Blanks t → ∃ reason,
        Select.parse (String.ofList (front ++ (Quotation.joined ps ++ t))) =
          .error (.invalid reason)) := by
  have hsolid := joined_solid hne
  have hno : ∀ t, afterKeyword? "where".toList (Quotation.joined ps ++ t) = none := by
    intro t
    obtain ⟨p, ps, rfl⟩ := List.exists_cons_of_ne_nil hne
    by_cases hempty : ps = []
    · subst hempty
      rfl
    · rw [joined_cons hempty]
      rfl
  constructor
  · intro hand
    have hread := joined_read hne hvalid hand
    refine ⟨fun model params => ?_, fun model projection front t hfront ht => ?_⟩
    · rw [filter_read hsolid, hread]
      rfl
    · rw [front_read hfront hsolid ht (hno t), hread]
      rfl
  · intro hand
    obtain ⟨reason, hreason⟩ := joined_unread hvalid hand
    refine ⟨fun model params => ⟨reason, ?_⟩, fun model projection front t hfront ht =>
      ⟨reason, ?_⟩⟩
    · rw [filter_read hsolid, hreason]
      rfl
    · rw [front_read hfront hsolid ht (hno t), hreason]
      rfl

theorem quoted_conditions_read_words :
    let ps : List Quotation := [⟨"name", "SELECT OR = \"x\""⟩, ⟨"place", " band and"⟩]
    let torn : List Quotation := [⟨"name", "salt\nAND pepper"⟩]
    let front := "select self from Order where ".toList
    Quotation.joined ps = "self.name = 'SELECT OR = \"x\"' AND self.place = ' band and'".toList ∧
      Select.ofQuery ⟨"Order", some (String.ofList (Quotation.joined ps)), []⟩ =
        .ok ⟨"Order", [], ps.map Quotation.condition⟩ ∧
      ∃ reason, Select.parse (String.ofList (front ++ (Quotation.joined torn ++ []))) =
        .error (.invalid reason) := by
  intro ps torn front
  have hps : ∀ p ∈ ps, p.Valid := by
    simp only [ps, List.forall_mem_cons]
    exact ⟨⟨by decide, by decide⟩, ⟨by decide, by decide⟩, by simp⟩
  have htorn : ∀ p ∈ torn, p.Valid := by
    simp only [torn, List.forall_mem_cons]
    exact ⟨⟨by decide, by decide⟩, by simp⟩
  have hlead : Blanks [] := by decide
  have hgap : Gap [' '] := by decide
  have hselect : Keyword "select" "select".toList := rfl
  have hfrom : Keyword "from" "from".toList := rfl
  have hwhere : Keyword "where" "where".toList := rfl
  have hfront : Select.Front "Order" [] front :=
    .intro hlead hselect hgap (.inl rfl) hgap hfrom hgap (by decide) .omitted hgap hwhere hgap
  refine ⟨by decide, ?_, ?_⟩
  · exact ((quoted_conditions_read (by simp [ps]) hps).1 (by decide)).1 "Order" []
  · exact ((quoted_conditions_read (by simp [torn]) htorn).2 (by decide)).2 _ _ _ []
      hfront (by decide)

/-- A text between quotes is torn in two at its own `and`. -/
theorem quoted_and_refused : ∃ reason,
    Select.ofQuery ⟨"M", some "self.a = 'salt and pepper'", []⟩ = .error (.invalid reason) := by
  let p : Quotation := ⟨"a", "salt and pepper"⟩
  have hvalid : ∀ q ∈ [p], q.Valid := by simpa using ⟨by decide, by decide⟩
  have hsolid : Solid (Quotation.joined [p]) := joined_solid (by simp)
  obtain ⟨reason, hreason⟩ := joined_unread hvalid ⟨p, by simp, by decide⟩
  have htext : Quotation.joined [p] = "self.a = 'salt and pepper'".toList := by decide
  have hfilter := filter_read hsolid "M" []
  rw [hreason, htext, String.ofList_toList] at hfilter
  exact ⟨reason, hfilter⟩

end ActionDispatch.Query
