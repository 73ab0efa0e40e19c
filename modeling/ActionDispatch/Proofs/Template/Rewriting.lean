import ActionDispatch.Proofs.Query.Clauses
import ActionDispatch.Proofs.Template.Parts

/-!
# Templates without their filters

What filters are rewritten to, in any body. A filter stands behind the strings and braces of its
body, so that the rewritten body is closed where the expression of a title has no quote and no
backslash to end the string around it. Then the rewritten template is split as before, and has no
filter left.
-/

set_option autoImplicit false

namespace ActionDispatch.Template
open Script Text Query

variable {body expr root path before name s t : List Char} {filter : Filter}

theorem of_splitFilter (h : splitFilter? body = some (expr, filter)) :
    ∃ before name, body = before ++ '|' :: name ∧ Filter.ofName? (trim name) = some filter ∧
      expr = trim before := by
  obtain hbar | ⟨before, name, rfl, hname⟩ := last_bar body
  · rw [unbarred_no_filter hbar] at h
    cases h
  · rw [splitFilter_bar hname] at h
    split at h
    next => cases h
    next =>
      obtain ⟨f, hf, heq⟩ := Option.map_eq_some_iff.mp h
      cases heq
      exact ⟨before, name, rfl, hf, rfl⟩

/-- The expression in front of the filter of a closed body is closed. -/
theorem expression_closed (hc : Closed body) (h : splitFilter? body = some (expr, filter)) :
    Closed expr := by
  obtain ⟨before, name, rfl, hname, rfl⟩ := of_splitFilter h
  exact trim_closed (closed_front (name_inert hname) hc)

structure Rooted (expr root path : List Char) : Prop where
  split : expr = root ++ '.' :: path ∨ expr = root ++ '?' :: '.' :: path
  word : IsWord root
  filled : path ≠ []
  line : '\n' ∉ path

theorem rootedPath_iff : rootedPath? expr = some (root, path) ↔ Rooted expr root path := by
  have hpoint : isWordChar '.' = false := by decide
  have hmark : isWordChar '?' = false := by decide
  constructor
  · intro h
    have hword : ∀ c ∈ expr.takeWhile isWordChar, isWordChar c = true :=
      fun _ => List.mem_takeWhile_imp
    have hexpr : expr = expr.takeWhile isWordChar ++ expr.dropWhile isWordChar :=
      List.takeWhile_append_dropWhile.symm
    simp only [rootedPath?] at h
    generalize expr.takeWhile isWordChar = word at h hword hexpr
    generalize expr.dropWhile isWordChar = rest at h hexpr
    subst hexpr
    split at h
    next p hp =>
      split at h
      next => cases h
      next hno =>
        simp only [Bool.or_eq_true, List.isEmpty_iff, List.contains_iff_mem, not_or] at hno
        obtain ⟨⟨hroot, hpath⟩, hline⟩ := hno
        cases h
        refine ⟨?_, ⟨hroot, hword⟩, hpath, hline⟩
        split at hp
        next => exact .inr (hp ▸ rfl)
        next => exact .inl (hp ▸ rfl)
    next => cases h
  · rintro ⟨hsplit, hroot, hpath, hline⟩
    rcases hsplit with rfl | rfl
    · obtain ⟨htake, hdrop⟩ := run_split hroot.word (ends_cons (s := path) hpoint)
      simp [rootedPath?, htake, hdrop, hroot.ne_nil, hpath, hline]
    · obtain ⟨htake, hdrop⟩ := run_split hroot.word (ends_cons (s := '.' :: path) hmark)
      simp [rootedPath?, htake, hdrop, hroot.ne_nil, hpath, hline]

theorem rootedPath_none : rootedPath? expr = none ↔ ∀ root path, ¬Rooted expr root path := by
  rw [Option.eq_none_iff_forall_ne_some, Prod.forall]
  exact forall₂_congr fun root path => not_congr rootedPath_iff

def Plain (s : List Char) : Prop := '\'' ∉ s ∧ '\\' ∉ s

instance (s : List Char) : Decidable (Plain s) := inferInstanceAs (Decidable (_ ∧ _))

theorem plain_string (h : Plain s) :
    s.foldlM advance (0, .quoted '\'') = some (0, .quoted '\'') := by
  induction s with
  | nil => rfl
  | cons c s ih =>
    obtain ⟨hquote, hslash⟩ := h
    simp only [List.mem_cons, not_or] at hquote hslash
    have hstep : advance (0, .quoted '\'') c = some (0, .quoted '\'') := by
      simp only [advance, Place.after, if_neg (Ne.symm hslash.1), if_neg (Ne.symm hquote.1)]
    rw [List.foldlM_cons, hstep]
    exact ih ⟨hquote.2, hslash.2⟩

def spliced (s : List Char) : List Char := '\'' :: (s ++ ['\''])

theorem plain_closed (h : Plain s) : Closed (spliced s) := by
  have hread : (s ++ ['\'']).foldlM advance (0, .quoted '\'') = some (0, .code) := by
    rw [List.foldlM_append, plain_string h]
    rfl
  exact hread

theorem word_inert {c : Char} (hc : isWordChar c = true) : Inert c :=
  class_inert (by decide) hc

def titleCall (args : List Char) : List Char :=
  formatterName.toList ++ ".text(".toList ++ args ++ [')']

def titleArguments (expr : List Char) : List Char :=
  match rootedPath? expr with
  | some (root, path) => root ++ ", ".toList ++ spliced path
  | none => spliced expr

theorem expandFilter_text (h : splitFilter? body = some (expr, .text)) :
    expandFilter body = titleCall (titleArguments expr) := by
  have hseparator : ", '".toList = ", ".toList ++ ['\''] := by decide
  have hfront : ".text('".toList = ".text(".toList ++ ['\''] := by decide
  have hback : "')".toList = ['\'', ')'] := by decide
  simp only [expandFilter, h, titleCall, titleArguments, spliced]
  cases rootedPath? expr with
  | none => simp [hfront, hback]
  | some found => simp [hseparator, hback]

theorem expandFilter_empty (h : splitFilter? body = some (expr, .empty)) :
    expandFilter body = '(' :: expr ++ ") ?: ''".toList := by
  simp only [expandFilter, h]

theorem titleArguments_closed (h : Plain expr) : Closed (titleArguments expr) := by
  unfold titleArguments
  split
  next root path hrooted =>
    obtain ⟨hsplit, hroot, -, -⟩ := rootedPath_iff.mp hrooted
    have hpath : Plain path := by
      rcases hsplit with rfl | rfl <;> simp_all [Plain]
    have hinert : ∀ c ∈ root, Inert c := fun c hc => word_inert (hroot.word c hc)
    have hseparator : Closed ", ".toList := by decide
    exact closed_append (closed_append (inert_passed hinert) hseparator) (plain_closed hpath)
  next => exact plain_closed h

/-- A rewritten body is closed where the expression of a title is plain. -/
theorem expandFilter_closed (hc : Closed body)
    (h : ∀ expr, splitFilter? body = some (expr, .text) → Plain expr) :
    Closed (expandFilter body) := by
  have hback : Closed [')'] := by decide
  cases hfilter : splitFilter? body with
  | none => simpa only [expandFilter, hfilter] using hc
  | some found =>
    obtain ⟨expr, filter⟩ := found
    cases filter with
    | text =>
      have hfront : Closed (formatterName.toList ++ ".text(".toList) := by decide
      rw [expandFilter_text hfilter]
      exact closed_append (closed_append hfront (titleArguments_closed (h expr hfilter))) hback
    | empty =>
      have hfront : Closed ['('] := by decide
      have hdefault : Closed ") ?: ''".toList := by decide
      rw [expandFilter_empty hfilter]
      exact closed_append (closed_append hfront (expression_closed hc hfilter)) hdefault

theorem expand_closed (xml : Bool) (hc : Closed body)
    (h : ∀ expr, splitFilter? body = some (expr, .text) → Plain expr) :
    Closed (expand xml body) := by
  cases xml with
  | false => exact expandFilter_closed hc h
  | true => exact escaped_closed (expandFilter_closed hc h)

theorem quote_no_filter (hbar : '|' ∉ t) (hquote : '\'' ∈ t) : splitFilter? (s ++ t) = none := by
  refine taken_no_filter fun before name hsplit hname => .inr ⟨'\'', ?_, .inr rfl⟩
  -- the last bar stands in front of the text behind, whose quote is then in the name
  rcases List.append_eq_append_iff.mp hsplit with ⟨x, -, ht⟩ | ⟨x, -, hn⟩
  · exact absurd (ht ▸ List.mem_append_right x (List.mem_cons_self ..)) hbar
  · cases x with
    | nil =>
      obtain rfl : '|' :: name = t := hn
      exact absurd List.mem_cons_self hbar
    | cons c x =>
      obtain ⟨-, rfl⟩ := List.cons.inj hn
      exact List.mem_append_right x hquote

theorem expandFilter_again (body : List Char) :
    expandFilter (expandFilter body) = expandFilter body := by
  cases hfilter : splitFilter? body with
  | none => simp only [expandFilter, hfilter]
  | some found =>
    obtain ⟨expr, filter⟩ := found
    -- what is put behind the expression has a quote and no bar
    have hnone : splitFilter? (expandFilter body) = none := by
      cases filter with
      | text =>
        have hend : ∃ x, titleArguments expr = x ++ ['\''] := by
          unfold titleArguments
          split
          next root path _ => exact ⟨root ++ ", ".toList ++ '\'' :: path, by simp [spliced]⟩
          next => exact ⟨'\'' :: expr, rfl⟩
        obtain ⟨x, hx⟩ := hend
        rw [expandFilter_text hfilter, titleCall, hx, ← List.append_assoc, List.append_assoc]
        exact quote_no_filter (by decide) (by decide)
      | empty =>
        rw [expandFilter_empty hfilter]
        exact quote_no_filter (by decide) (by decide)
    rw [expandFilter, hnone]

variable {xmlEscape : Bool} {template : String}

theorem trimLeft_append {c : Char} (hc : isBlank c = false) (s t : List Char) :
    trimLeft (s ++ c :: t) = trimLeft s ++ c :: t := by
  simp only [trimLeft, List.dropWhile_append, List.dropWhile_cons_of_neg (Bool.eq_false_iff.mp hc)]
  split
  next hblank => rw [List.isEmpty_iff.mp hblank, List.nil_append]
  next => rfl

theorem prefix_before {c : Char} {p s t : List Char} (hc : c ∉ p) (h : p <+: s ++ c :: t) :
    p <+: s := by
  obtain ⟨x, hx⟩ := h
  rcases List.append_eq_append_iff.mp hx with ⟨y, rfl, -⟩ | ⟨y, rfl, hy⟩
  · exact List.prefix_append ..
  · cases y with
    | nil => simp
    | cons d y =>
      obtain ⟨rfl, -⟩ := List.cons.inj hy
      exact absurd (List.mem_append_right s List.mem_cons_self) hc

/-- Whether a template is an XML document is seen in front of any dollar sign. -/
theorem isXml_dollar (s t : List Char) : isXml (s ++ '$' :: t) = isXml s := by
  have hdollar : isBlank '$' = false := by decide
  have hno : '$' ∉ "<?xml".toList := by decide
  rw [isXml, isXml, trimLeft_append hdollar, Bool.eq_iff_iff, List.isPrefixOf_iff_prefix,
    List.isPrefixOf_iff_prefix]
  exact ⟨prefix_before hno, fun h => h.trans (List.prefix_append ..)⟩

/-- A template without filters is an XML document where the one with them is. -/
theorem isXml_expanded (xml : Bool) (s : List Char) :
    isXml (join ((segments s).map (Segment.expanded xml))) = isXml s := by
  cases hnext : next? s with
  | none =>
    obtain ⟨hmap, hjoin⟩ := text_expanded xml s
    rw [segments_text hnext, hmap, hjoin]
  | some found =>
    obtain ⟨before, body, rest⟩ := found
    obtain ⟨hs, -, -⟩ := of_next hnext
    obtain ⟨hmap, hjoin⟩ := text_expanded xml before
    have hjoined : join ((segments s).map (Segment.expanded xml)) =
        before ++ '$' :: ('\x7b' :: expand xml body ++ ['\x7d'] ++
          join ((segments rest).map (Segment.expanded xml))) := by
      rw [segments_next hnext, List.map_append, hmap, join_append, hjoin]
      rfl
    have hraw : s = before ++ '$' :: ('\x7b' :: body ++ ['\x7d'] ++ rest) := by
      rw [hs, interpolation_source]
      simp
    rw [hjoined, isXml_dollar, hraw, isXml_dollar]

theorem preprocess_toList (xmlEscape : Bool) (template : String) :
    (preprocess xmlEscape template).toList =
      join ((segments template.toList).map
        (Segment.expanded (xmlEscape && isXml template.toList))) := by
  rw [preprocess, String.toList_ofList]

theorem expanded_again (segment : Segment) :
    (segment.expanded false).expanded false = segment.expanded false := by
  cases segment with
  | text s => rfl
  | interpolation body => exact congrArg Segment.interpolation (expandFilter_again body)

/-- Where the expressions of titles are plain, a template without filters has the segments of the
one with them, the bodies among them expanded. Outside of XML documents there is nothing left to
expand in it. -/
theorem preprocess_keeps_segments (xmlEscape : Bool) (template : String)
    (h : ∀ body expr, .interpolation body ∈ segments template.toList →
      splitFilter? body = some (expr, .text) → Plain expr) :
    segments (preprocess xmlEscape template).toList =
      (segments template.toList).map (Segment.expanded (xmlEscape && isXml template.toList)) ∧
    ((xmlEscape && isXml template.toList) = false →
      preprocess xmlEscape (preprocess xmlEscape template) = preprocess xmlEscape template) := by
  have hsegments : segments (preprocess xmlEscape template).toList =
      (segments template.toList).map (Segment.expanded (xmlEscape && isXml template.toList)) := by
    rw [preprocess_toList]
    exact segments_expanded fun body hbody =>
      expand_closed _ (bodies_closed hbody) fun expr hfilter => h body expr hbody hfilter
  refine ⟨hsegments, fun hplain => ?_⟩
  have hxml : isXml (preprocess xmlEscape template).toList = isXml template.toList := by
    rw [preprocess_toList, isXml_expanded]
  have hagain : (Segment.expanded false ∘ Segment.expanded false) = Segment.expanded false :=
    funext expanded_again
  apply String.toList_injective
  rw [preprocess_toList, hsegments, hxml, hplain, List.map_map, hagain, preprocess_toList, hplain]

theorem preprocess_keeps_segments_unterminated :
    let raw := "$$\x7bd.state | text\x7d$\x7b'\x7d|' | e\x7d, $\x7bn | text"
    let expanded : List Segment := [.text ['$'], .interpolation "__fmt__.text(d, 'state')".toList,
      .interpolation "('\x7d|') ?: ''".toList, .text ", $\x7bn | text".toList]
    segments (preprocess true raw).toList = expanded ∧
      preprocess true (preprocess true raw) = preprocess true raw := by
  intro raw expanded
  have hsegments : segments raw.toList = [.text ['$'], .interpolation "d.state | text".toList,
      .interpolation "'\x7d|' | e".toList, .text ", $\x7bn | text".toList] := by
    have hfirst : next? raw.toList =
        some (['$'], "d.state | text".toList,
          "$\x7b'\x7d|' | e\x7d, $\x7bn | text".toList) := by decide
    have hsecond : next? "$\x7b'\x7d|' | e\x7d, $\x7bn | text".toList =
        some ([], "'\x7d|' | e".toList, ", $\x7bn | text".toList) := by decide
    have hlast : next? ", $\x7bn | text".toList = none := by decide
    rw [segments_next hfirst, segments_next hsecond, segments_text hlast]
    rfl
  have hstate : splitFilter? "d.state | text".toList = some ("d.state".toList, .text) := by decide
  have hbar : splitFilter? "'\x7d|' | e".toList = some ("'\x7d|'".toList, .empty) := by decide
  have hplain : ∀ body expr, .interpolation body ∈ segments raw.toList →
      splitFilter? body = some (expr, .text) → Plain expr := by
    intro body expr hbody hfilter
    simp only [hsegments, List.mem_cons, reduceCtorEq, Segment.interpolation.injEq,
      List.not_mem_nil, or_false, false_or] at hbody
    rcases hbody with rfl | rfl
    · rw [hstate] at hfilter
      cases hfilter
      decide
    · rw [hbar] at hfilter
      cases hfilter
  have hxml : (true && isXml raw.toList) = false := by decide
  obtain ⟨hkept, hagain⟩ := preprocess_keeps_segments true raw hplain
  refine ⟨?_, hagain hxml⟩
  rw [hkept, hsegments, hxml]
  decide

end ActionDispatch.Template
