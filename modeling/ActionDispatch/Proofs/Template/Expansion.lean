import ActionDispatch.Proofs.Script.Enclosed
import ActionDispatch.Proofs.Script.MethodCall
import ActionDispatch.Proofs.Template.Segments

/-!
# Expanded bodies

What filters and markup make of a body that is an accepted script: a script that is accepted as
well, whose tree is the one of the body inside of what is put around it, and nested deeper by no
more than the brackets and operators around it.
-/

set_option autoImplicit false

namespace ActionDispatch.Template
open Script Text

variable {t gap name : List Char} {e : Expr}

theorem accepted_within (h : parse (String.ofList t) = .ok e) : parseWithin t.length t = .ok e := by
  simp only [parse, String.toList_ofList] at h
  split at h
  next => cases h
  next => exact h

theorem accepted_bars (h : parse (String.ofList t) = .ok e) : BarsTaken t := by
  obtain ⟨-, hlexes, -⟩ := parseWithin_lexes (accepted_within h)
  exact lexes_bars ((space_lexes t).trans hlexes)

/-- What is in front of and behind the last bar of a body. -/
theorem splitFilter_bar {before name : List Char} (hname : '|' ∉ name) :
    splitFilter? (before ++ '|' :: name) =
      if before.getLast? = some '|' then none
      else (Filter.ofName? (trim name)).map fun filter => (trim before, filter) := by
  have hrev : (before ++ '|' :: name).reverse = name.reverse ++ '|' :: before.reverse := by simp
  have hin : ∀ c ∈ name.reverse, decide (c ≠ '|') = true := by
    intro c hc
    rw [decide_eq_true_eq]
    rintro rfl
    exact hname (List.mem_reverse.mp hc)
  have hends : EndsRun (fun c => decide (c ≠ '|')) ('|' :: before.reverse) := by simp [EndsRun]
  obtain ⟨htake, hdrop⟩ := run_split hin hends
  simp only [splitFilter?, hrev, htake, hdrop, List.reverse_reverse, List.head?_reverse]

theorem named_iff : Filter.ofName? name ≠ none ↔ name = "text".toList ∨ name = "e".toList := by
  unfold Filter.ofName?
  split
  next htext => simp [htext]
  next htext =>
    split
    next hempty => simp [hempty]
    next hempty => exact ⟨fun h => absurd rfl h, fun h => absurd h (not_or.mpr ⟨htext, hempty⟩)⟩

/-- No filter has a name with a character in it that is neither white space nor in the names. -/
theorem foreign_no_filter {c : Char} (hblank : isBlank c = false)
    (hforeign : c ∉ "text".toList ∧ c ∉ "e".toList) (hin : c ∈ name) :
    Filter.ofName? (trim name) = none := by
  have hkept : c ∈ trim name := by
    obtain ⟨w, v, hw, hv, -, haround⟩ := blanks_around name
    rw [haround, List.append_assoc, List.mem_append, List.mem_append] at hin
    rcases hin with hin | hin | hin
    · rw [hw c hin] at hblank; cases hblank
    · exact hin
    · rw [hv c hin] at hblank; cases hblank
  by_contra hnamed
  rcases named_iff.mp hnamed with heq | heq
  · exact hforeign.1 (heq ▸ hkept)
  · exact hforeign.2 (heq ▸ hkept)

theorem quoted_no_filter {q : Char} (hq : IsQuote q) (hin : q ∈ name) :
    Filter.ofName? (trim name) = none := by
  refine foreign_no_filter (quote_not_blank hq).1 ?_ hin
  rcases hq with rfl | rfl <;> decide

theorem last_bar (t : List Char) :
    '|' ∉ t ∨ ∃ before name, t = before ++ '|' :: name ∧ '|' ∉ name := by
  by_cases hbar : '|' ∈ t
  · obtain ⟨x, y, hsplit, hx⟩ := List.eq_append_cons_of_mem (List.mem_reverse.mpr hbar)
    refine .inr ⟨y.reverse, x.reverse, ?_, fun hin => hx (List.mem_reverse.mp hin)⟩
    rw [← List.reverse_inj, hsplit]
    simp
  · exact .inl hbar

theorem unbarred_no_filter (h : '|' ∉ t) : splitFilter? t = none := by
  have hnone : t.reverse.dropWhile (fun c => decide (c ≠ '|')) = [] := by
    rw [List.dropWhile_eq_nil_iff]
    intro c hc
    rw [decide_eq_true_eq]
    rintro rfl
    exact h (List.mem_reverse.mp hc)
  simp only [splitFilter?, hnone]

/-- A last bar that is the second of two, or that a quote stands behind, is that of no filter. -/
theorem taken_no_filter (h : ∀ before name, t = before ++ '|' :: name → '|' ∉ name →
    before.getLast? = some '|' ∨ ∃ q ∈ name, IsQuote q) : splitFilter? t = none := by
  obtain hbar | ⟨before, name, rfl, hname⟩ := last_bar t
  · exact unbarred_no_filter hbar
  · rw [splitFilter_bar hname]
    split
    next => rfl
    next hlast =>
      obtain ⟨q, hq, hquote⟩ := (h before name rfl hname).resolve_left hlast
      rw [quoted_no_filter hquote hq, Option.map_none]

/-- A script on its own has no filter. -/
theorem script_no_filter (h : parse (String.ofList t) = .ok e) : splitFilter? t = none :=
  taken_no_filter fun before name ht hname => (accepted_bars h before name ht hname).2

theorem trim_gap (h : parse (String.ofList t) = .ok e) (hgap : Blanks gap) :
    trim (t ++ gap) = trim t := by
  obtain ⟨hsolid, -⟩ := accepted_trim (accepted_within h)
  obtain ⟨w, v, hw, hv, -, haround⟩ := blanks_around t
  have hback : Blanks (v ++ gap) := fun c hc => (List.mem_append.mp hc).elim (hv c) (hgap c)
  have hsplit : t ++ gap = w ++ trim t ++ (v ++ gap) := by
    conv_lhs => rw [haround]
    simp only [List.append_assoc]
  rw [hsplit, trim_blanks hw hback hsolid]

theorem gap_no_bar (h : parse (String.ofList t) = .ok e) (hgap : Blanks gap) :
    (t ++ gap).getLast? ≠ some '|' := by
  intro hlast
  obtain ⟨y, hy⟩ := List.getLast?_eq_some_iff.mp hlast
  rcases List.eq_nil_or_concat gap with rfl | ⟨x, c, rfl⟩
  · rw [List.append_nil] at hy
    exact (accepted_bars h y [] hy (by simp)).1 rfl
  · have hc : isBlank c = true := hgap c (by simp)
    rw [List.concat_eq_append, ← List.append_assoc] at hy
    obtain ⟨-, heq⟩ := List.append_inj' hy rfl
    obtain rfl : c = '|' := by simpa using heq
    cases hc

theorem name_no_bar (hname : trim name = ['e']) : '|' ∉ name := by
  intro hbar
  obtain ⟨w, v, hw, hv, -, haround⟩ := blanks_around name
  rw [haround, hname, List.append_assoc, List.mem_append, List.mem_append] at hbar
  rcases hbar with hbar | hbar | hbar
  · exact absurd (hw _ hbar) (by decide)
  · exact absurd hbar (by decide)
  · exact absurd (hv _ hbar) (by decide)

theorem script_filtered (h : parse (String.ofList t) = .ok e) (hgap : Blanks gap)
    (hname : trim name = ['e']) :
    splitFilter? (t ++ gap ++ '|' :: name) = some (trim t, .empty) := by
  rw [splitFilter_bar (name_no_bar hname), if_neg (gap_no_bar h hgap), hname, trim_gap h hgap]
  rfl

def defaulted (t : List Char) : List Char := '(' :: trim t ++ ") ?: ''".toList

theorem defaulted_text (t : List Char) :
    defaulted t = '(' :: (trim t ++ ')' :: " ?: ''".toList) := by
  have hclose : ") ?: ''".toList = ')' :: " ?: ''".toList := by decide
  rw [defaulted, hclose, List.cons_append]

def defaultWords : List Word := [['?', ':'], ['\'', '\'']]

theorem unblank_solid {c : Char} (hc : isBlank c = false) (r : List Char) :
    isSolid (c :: r) = true := by
  simp [isSolid, unblank_space hc]

theorem trimmed_solid (h : parse (String.ofList t) = .ok e) : isSolid (trim t) = true := by
  obtain ⟨hsolid, -⟩ := accepted_trim (accepted_within h)
  have hends := hsolid.first
  obtain ⟨c, r, hc⟩ := List.exists_cons_of_ne_nil hsolid.ne_nil
  rw [hc] at hends ⊢
  exact unblank_solid (by simpa [EndsRun] using hends) r

theorem defaulted_ahead (h : parse (String.ofList t) = .ok e) :
    Ahead (['('] :: trim t :: [')'] :: defaultWords) (defaulted t) := by
  have hempty : Blank [] := by decide
  have hspace : Blank [' '] := by decide
  have hsolid : AllSolid (['('] :: trim t :: [')'] :: defaultWords) := by
    simp only [defaultWords, all_solid_cons]
    exact ⟨rfl, trimmed_solid h, rfl, rfl, rfl, all_solid_nil⟩
  refine ⟨hsolid, ?_⟩
  rw [defaulted_text]
  exact .cons hempty (.cons hempty (.cons hempty (.cons hspace (.cons hspace (.nil hempty)))))

theorem defaulted_nesting (h : parse (String.ofList t) = .ok e) :
    nesting (defaulted t) = nesting t + 1 := by
  obtain ⟨-, v, hv, hskip⟩ := accepted_trim (accepted_within h)
  obtain ⟨-, -, hspans⟩ := parseWithin_lexes (accepted_within h)
  have hopen : ∀ s, marks ('(' :: s) = .opening :: marks s := fun s => marks_counted (by decide) rfl
  have hapart : Apart " ?: ''".toList := by
    rintro q (rfl | rfl) <;> decide
  have htail : Tail " ?: ''".toList (')' :: " ?: ''".toList) := ⟨[], by decide, rfl⟩
  have hsign : marks " ?: ''".toList = [.operator] := by decide +kernel
  have hmarks : marks (defaulted t) = (.opening :: marks t ++ [.closing]) ++ [.operator] := by
    rw [defaulted_text, hopen, enclosed_marks (accepted_within h) hskip hv hapart htail, hsign]
    simp
  rw [nesting_marks, nesting_marks, hmarks, List.foldl_append,
    bracketed_steps hspans Levels.start (Nat.le_refl _), reached]
  simp only [List.foldl_cons, List.foldl_nil, Levels.step, Levels.count, Levels.start]
  omega

theorem defaulted_parses (h : parse (String.ofList t) = .ok e) (hn : nesting t < maxNesting) :
    parse (String.ofList (defaulted t)) = .ok (.elvis e (.literal (.string ""))) := by
  obtain ⟨-, v, hv, hskip⟩ := accepted_trim (accepted_within h)
  have hlen : (defaulted t).length = (trim t).length + 7 + 1 := by simp [defaulted]
  refine accepted_parses ?_ (by rw [String.toList_ofList, defaulted_nesting h]; exact hn)
  rw [String.toList_ofList, hlen]
  generalize hlevels : (trim t).length + 7 = levels
  have hahead := ahead_skip (defaulted_ahead h)
  generalize skipSpace (defaulted t) = s at hahead
  have hno : mark? "!" s = none := opens_no_mark (t := ['(']) (by decide) hahead
  have hscript : Arrives levels 0 e defaultWords s := by
    obtain ⟨r, hs, hr⟩ := ahead_cons hahead
    have hink : ink (trim t) + 1 + ink defaultWords.flatten ≤ levels := by
      have hle := ink_length (trim t)
      have hfour : ink defaultWords.flatten = 4 := by decide
      omega
    have hread : Accepts (expression levels) e ([')'] :: defaultWords) (skipSpace r) :=
      enclosed_accepted (accepted_within h) hskip hv (by decide) hink (ahead_skip hr)
    obtain ⟨r', hp, hr'⟩ := closed_read ")" rfl hread
    refine primary_arrives (r := r') ?_ hr'
    rw [hs]
    simpa [primary] using hp
  have hleft : Arrives levels 6 e defaultWords s :=
    climb (m := 0) (fun _ => hno) (fun _ => hscript) 6 (by decide)
      (show ['?', ':'] ∈ stops 5 by decide)
  have hsign : ∀ r, Ahead (['?', ':'] :: [['\'', '\'']] ++ []) r →
      ∃ r', jointOf 4 r = some (.elvis, r') ∧ Ahead ([['\'', '\'']] ++ []) r' :=
    fun r hr => joint_found "?:" .elvis rfl hr
  have hempty : (Expr.literal (.string "")).wordsWithin 5 = [['\'', '\'']] := by decide
  have hright : ∀ r, Ahead [['\'', '\'']] r →
      Accepts (atLevel levels 5) (.literal (.string "")) [] r := by
    intro r hr
    refine arrives_accepts (by decide) trivial
      (within_arrives (literal_legible rfl) rfl (by decide) ?_ trivial ?_)
    · rw [hempty, List.length_singleton]
      omega
    · rw [hempty]
      exact hr
  have hjoined : Arrives levels 6 (.elvis e (.literal (.string ""))) [] s :=
    join_arrives hsign hleft hright
  rw [expression_outermost]
  exact arrives_accepts (Nat.le_refl 6) trivial hjoined

def escaped (t : List Char) : List Char :=
  formatterName.toList ++ ".escape(".toList ++ t ++ [')']

theorem formatter_call_text {method : String} {opening : List Char}
    (ho : formatterName.toList ++ opening = (pathWords formatterName [method]).flatten ++ ['('])
    (t : List Char) :
    formatterName.toList ++ opening ++ t ++ [')'] =
      (pathWords formatterName [method]).flatten ++ '(' :: (t ++ [')']) := by
  rw [ho, List.append_assoc, List.append_assoc, List.singleton_append]

theorem escaped_text (t : List Char) :
    escaped t = (pathWords formatterName ["escape"]).flatten ++ '(' :: (t ++ [')']) :=
  formatter_call_text (by decide) t

theorem formatter_names : isFreeName formatterName = true ∧
    ∀ member ∈ ["escape"], isName member.toList = true := by decide

theorem accepted_front (h : parse (String.ofList t) = .ok e) :
    isSolid (skipSpace t) = true ∧ ∀ k, skipSpace (t ++ k) = skipSpace t ++ k := by
  obtain ⟨c, r, hskip, hc⟩ := accepted_starts (accepted_within h)
  have hsolid : isSolid (skipSpace t) = true := by rw [hskip]; exact unblank_solid hc r
  refine ⟨hsolid, fun k => ?_⟩
  rw [skip_append, if_neg]
  intro hblank
  rw [skipSpace, List.dropWhile_eq_nil_iff.mpr hblank] at hskip
  cases hskip

theorem escaped_nesting (h : parse (String.ofList t) = .ok e) :
    nesting (escaped t) = nesting t + 2 := by
  obtain ⟨-, -, hspans⟩ := parseWithin_lexes (accepted_within h)
  obtain ⟨hfree, hmember⟩ := formatter_names
  have hname : isName formatterName.toList = true := by simp_all [isFreeName]
  have hapart : Apart [] := by
    rintro q (rfl | rfl) <;> decide
  have htail : Tail [] [')'] := ⟨[], by decide, rfl⟩
  have hbody : marks (t ++ [')']) = marks t ++ [.closing] := by
    have hskip := lexes_marks (space_lexes (t ++ [')']))
    rw [(accepted_front h).2, enclosed_marks (accepted_within h) (List.append_nil _).symm
      (by decide) hapart htail, marks_nil] at hskip
    exact hskip
  have hmarks : marks (escaped t) = .operator :: (.opening :: marks t ++ [.closing]) := by
    rw [escaped_text, path_marks hname hmember, hbody]
    rfl
  rw [nesting_marks, nesting_marks, hmarks, List.foldl_cons,
    bracketed_steps hspans _ (step_reached _ _), reached]
  simp only [Levels.step, Levels.count, Levels.start]
  omega

theorem escaped_ahead (h : parse (String.ofList t) = .ok e) :
    Ahead (pathWords formatterName ["escape"] ++ ['('] :: [skipSpace t, [')']]) (escaped t) := by
  obtain ⟨hfree, hmember⟩ := formatter_names
  have hsolid : AllSolid [skipSpace t, [')']] := by
    simp only [all_solid_cons]
    exact ⟨(accepted_front h).1, rfl, all_solid_nil⟩
  have hempty : Blank [] := by decide
  have hsplit : t = t.takeWhile isSpace ++ skipSpace t := List.takeWhile_append_dropWhile.symm
  have hblank : Blank (t.takeWhile isSpace) := fun _ => List.mem_takeWhile_imp
  have hspells : Spells [skipSpace t, [')']] (t ++ [')']) := by
    conv in t ++ [')'] => rw [hsplit]
    exact .cons hblank (.cons hempty (.nil hempty))
  rw [escaped_text]
  exact call_ahead hfree hmember hsolid hspells

theorem escaped_parses (h : parse (String.ofList t) = .ok e) (hn : nesting t + 2 ≤ maxNesting) :
    parse (String.ofList (escaped t)) = .ok (.invoke (.name formatterName) "escape" [e] false) := by
  obtain ⟨hfree, hmember⟩ := formatter_names
  have hahead : Ahead (pathWords formatterName ["escape"] ++ ['('] :: [skipSpace t, [')']])
      (String.ofList (escaped t)).toList := by
    rw [String.toList_ofList]
    exact escaped_ahead h
  have hargs : ∀ levels r, (String.ofList (escaped t)).toList.length = levels + 2 →
      Ahead (['('] :: [skipSpace t] ++ [[')']]) r →
      Accepts (arguments (expression (levels + 1))) [e] [] r := by
    intro levels r hlen hr
    rw [String.toList_ofList] at hlen
    have hink : ink (skipSpace t) + 1 + ink ([] : List Word).flatten ≤ levels + 1 := by
      have hle := ink_length t
      have hfront : (escaped t).length = t.length + 16 := by simp [escaped, formatterName]
      rw [ink_skip, List.flatten_nil, ink_nil]
      omega
    exact argument_read (fun _ => enclosed_accepted (accepted_within h) (List.append_nil _).symm
      (by decide) (by decide) hink) hr
  refine call_parses hfree hmember hahead hargs ?_
  rw [String.toList_ofList, escaped_nesting h]
  exact hn

end ActionDispatch.Template
