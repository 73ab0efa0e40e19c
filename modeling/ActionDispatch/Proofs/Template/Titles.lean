import ActionDispatch.Proofs.Script.Beginnings
import ActionDispatch.Proofs.Template.Rewriting

/-!
# Expressions of titles

The filter for titles puts an expression, or the path behind the root of one, between single quotes
as it is. A plain text is the string that is read there, whatever brackets and double quotes it has.
Any other text is cut off, or loses a backslash, so that the formatter is asked for something else
or the script is not read at all.
-/

set_option autoImplicit false

namespace ActionDispatch.Template
open Script Text

variable {body expr root path s t : List Char} {ts us : List Word} {args : List Expr}

theorem escape_plain (h : Plain t) : t.flatMap escapeChar = t := by
  induction t with
  | nil => rfl
  | cons c t ih =>
    obtain ⟨hquote, hslash⟩ := h
    simp only [List.mem_cons, not_or] at hquote hslash
    have hno : ¬(c = '\\' ∨ c = '\'') := not_or.mpr ⟨Ne.symm hslash.1, Ne.symm hquote.1⟩
    rw [List.flatMap_cons, escapeChar, if_neg hno, ih ⟨hquote.2, hslash.2⟩]
    rfl

theorem spliced_plain {text : String} (h : Plain text.toList) :
    spliced text.toList = quotedWord text := by
  rw [spliced, quotedWord, escape_plain h]
  rfl

theorem ahead_lacks {c : Char} (hc : isSpace c = false) (hts : ∀ t ∈ ts, c ∉ t) (h : Ahead ts s) :
    c ∉ s := by
  obtain ⟨-, hspells⟩ := h
  have hblank : ∀ w : List Char, Blank w → c ∉ w := by
    intro w hw hin
    rw [hw c hin] at hc
    cases hc
  induction hspells with
  | nil hw => exact hblank _ hw
  | cons hw _ ih =>
    obtain ⟨ht, hrest⟩ := List.forall_mem_cons.mp hts
    simp only [List.mem_append, not_or]
    exact ⟨⟨hblank _ hw, ht⟩, ih hrest⟩

/-- In place of a text that is not plain another string is read, if any. -/
theorem spliced_curtailed {levels : Nat} (ht : ¬Plain t) (hts : ∀ w ∈ ts, '\'' ∉ w)
    (h : Ahead (spliced t :: ts) s) : BeginsWith (expression (levels + 1)) s (Curtailed t) := by
  obtain ⟨r, hskip, hr⟩ := ahead_cons h
  have hlast : '\'' ∉ r := ahead_lacks (by decide) hts hr
  refine expression_begins (opens_no_mark rfl h) ?_
  cases hstring : string? '\'' (t ++ '\'' :: r) with
  | none =>
    have hrefuse : ∀ nested, primary nested (skipSpace s) = .refuse := by
      intro nested
      rw [hskip, spliced]
      simp [primary, hstring, literal]
    intro e rest haccept
    simp [postfixed, hrefuse, Reply.andThen] at haccept
  | some found =>
    obtain ⟨content, r'⟩ := found
    have hne : content ≠ t := by
      rintro rfl
      exact ht (string_itself hlast hstring)
    refine primary_begins (r := r') ⟨content, hne, rfl⟩ ?_
    rw [hskip, spliced]
    simp [primary, hstring, literal]

def titleOf (args : List Expr) : Expr := .invoke (.name formatterName) "text" args false

theorem title_names : isFreeName formatterName = true ∧
    ∀ member ∈ ["text"], isName member.toList = true := by decide

theorem title_text (t : List Char) :
    titleCall t = (pathWords formatterName ["text"]).flatten ++ '(' :: (t ++ [')']) :=
  formatter_call_text (by decide) t

theorem title_ahead (hus : AllSolid us) (h : Spells us (t ++ [')'])) :
    Ahead (pathWords formatterName ["text"] ++ ['('] :: us)
      (String.ofList (titleCall t)).toList := by
  obtain ⟨hfree, hmember⟩ := title_names
  rw [String.toList_ofList, title_text]
  exact call_ahead hfree hmember hus h

theorem title_parses (hargs : allWritable args = true)
    (h : Spells ([[',']].intercalate (wordsOfEach args) ++ [[')']]) (t ++ [')']))
    (hn : nesting (titleCall t) ≤ maxNesting) :
    parse (String.ofList (titleCall t)) = .ok (titleOf args) := by
  have hw : (titleOf args).writable = true := by
    have htarget : ((Expr.name formatterName).writable && isName "text".toList) = true := by decide
    rw [titleOf, Expr.writable, htarget, hargs]
    rfl
  refine spelled_tree_parses _ hw _ ?_ (by rwa [String.toList_ofList])
  rw [String.toList_ofList, title_text]
  exact call_spells formatterName ["text"] h

theorem title_marks (t : List Char) :
    marks (titleCall t) = .operator :: .opening :: marks (t ++ [')']) := by
  obtain ⟨-, hmember⟩ := title_names
  have hname : isName formatterName.toList = true := by decide
  rw [title_text, path_marks hname hmember]
  rfl

theorem spliced_marks (h : Plain t) : marks (spliced t ++ [')']) = [.closing] := by
  have hstring : string? '\'' (t ++ '\'' :: [')']) = some (t, [')']) := by
    have hread := string_read t (s := [')']) rfl
    rwa [escape_plain h] at hread
  have hpass := (string_passed (.inr rfl) hstring).resolve_right (by decide)
  have hclose : marks [')'] = .closing :: marks [] := marks_counted (by decide) rfl
  rw [hclose, marks_nil] at hpass
  rw [← hpass, spliced, List.cons_append, List.append_assoc]
  rfl

/-- A text between single quotes is the argument of the call just where it is plain. -/
theorem spliced_title (text : String) :
    parse (String.ofList (titleCall (spliced text.toList))) =
      .ok (titleOf [.literal (.string text)]) ↔
      Plain text.toList := by
  have hspells : Spells [spliced text.toList, [')']] (spliced text.toList ++ [')']) := by
    simpa using spells_flatten [spliced text.toList, [')']]
  constructor
  · intro h
    obtain ⟨hfree, hmember⟩ := title_names
    have hsolid : AllSolid [spliced text.toList, [')']] := by
      simp only [all_solid_cons]
      exact ⟨rfl, rfl, all_solid_nil⟩
    -- in place of a text that is not plain the argument would begin with another string
    refine Classical.byContradiction fun hp => ?_
    exact curtailed_argument (parsed_arguments hfree hmember (title_ahead hsolid hspells)
      (fun _ _ _ _ => arguments_begin fun _ => spliced_curtailed hp (by decide)) h)
  · intro hp
    rw [spliced_plain hp] at hspells
    refine title_parses rfl ?_ ?_
    · rw [spliced_plain hp]
      exact hspells
    · rw [nesting_marks, title_marks, spliced_marks hp]
      decide

theorem rooted_marks {n : String} (hn : isFreeName n = true) (h : Plain t) :
    marks (n.toList ++ ", ".toList ++ spliced t ++ [')']) = [.comma, .closing] := by
  have hname : isName n.toList = true := by simp_all [isFreeName]
  have hcomma : ∀ r, marks (',' :: r) = .comma :: marks r := fun r => marks_counted (by decide) rfl
  have hspace : ∀ r, marks (' ' :: r) = marks r := unscanned_passed (by decide)
  have hsplit : n.toList ++ ", ".toList ++ spliced t ++ [')'] =
      n.toList ++ ',' :: ' ' :: (spliced t ++ [')']) := by simp
  have hread : name? (n.toList ++ ',' :: ' ' :: (spliced t ++ [')'])) = some _ :=
    name_read hname rfl
  rw [hsplit, name_passed hread, hcomma, hspace, spliced_marks h]

theorem rooted_title {n : String} (hn : isFreeName n = true) (text : String) :
    parse (String.ofList (titleCall (n.toList ++ ", ".toList ++ spliced text.toList))) =
        .ok (titleOf [.name n, .literal (.string text)]) ↔
      Plain text.toList := by
  have hempty : Blank [] := by decide
  have hspace : Blank [' '] := by decide
  have hspells : Spells [n.toList, [','], spliced text.toList, [')']]
      (n.toList ++ ", ".toList ++ spliced text.toList ++ [')']) := by
    simpa using Spells.cons (t := n.toList) hempty (.cons (t := [',']) hempty
      (.cons (t := spliced text.toList) hspace (.cons (t := [')']) hempty (.nil hempty))))
  constructor
  · intro h
    obtain ⟨hfree, hmember⟩ := title_names
    have hname : isName n.toList = true := by simp_all [isFreeName]
    have hsolid : AllSolid [n.toList, [','], spliced text.toList, [')']] := by
      simp only [all_solid_cons]
      exact ⟨name_solid hname, rfl, rfl, rfl, all_solid_nil⟩
    have hstop : Stopped 6 [[','], spliced text.toList, [')']] := by
      show [','] ∈ stops 6
      decide
    refine Classical.byContradiction fun hp => ?_
    -- the name is read up to the comma, so that the second argument is what is read behind it
    have hfirst : ∀ levels r, Ahead ([n.toList] ++ [[','], spliced text.toList, [')']]) r →
        Accepts (expression (levels + 1)) (.name n) [[','], spliced text.toList, [')']] r :=
      fun levels r hr => whole_read (name_legible hn) hn (Nat.le_add_left 1 levels) hstop hr
    have hargs : ∀ levels r args rest,
        Ahead [['('], n.toList, [','], spliced text.toList, [')']] r →
        arguments (expression (levels + 1)) r = .accept args rest →
        ∃ others, args = .name n :: others ∧ FirstBegins (Curtailed text.toList) others :=
      fun levels _ _ _ hr => arguments_behind (hfirst levels)
        (fun _ => spliced_curtailed hp (by decide)) hr
    obtain ⟨others, heq, hothers⟩ :=
      parsed_arguments hfree hmember (title_ahead hsolid hspells) hargs h
    obtain ⟨-, rfl⟩ := List.cons.inj heq
    exact curtailed_argument hothers
  · intro hp
    have hargs : allWritable [.name n, .literal (.string text)] = true := by
      simp [allWritable, Expr.writable, isWritable, hn]
    refine title_parses hargs ?_ ?_
    · rw [spliced_plain hp] at hspells ⊢
      exact hspells
    · rw [nesting_marks, title_marks, rooted_marks hn hp]
      decide

theorem expand_unrooted (h : splitFilter? body = some (expr, .text))
    (hroot : ∀ root path, ¬Rooted expr root path) :
    expand false body = titleCall (spliced expr) := by
  have hexpand : expand false body = titleCall (titleArguments expr) := expandFilter_text h
  rw [hexpand, titleArguments, rootedPath_none.mpr hroot]

theorem expand_rooted (h : splitFilter? body = some (expr, .text)) (hroot : Rooted expr root path) :
    expand false body = titleCall (root ++ ", ".toList ++ spliced path) := by
  have hexpand : expand false body = titleCall (titleArguments expr) := expandFilter_text h
  rw [hexpand, titleArguments, rootedPath_iff.mpr hroot]

/-- The formatter is asked for the title of a whole expression, or of the whole path behind the name
that is its root, just where there is no single quote and no backslash in it. -/
theorem title_takes_plain_text (body expr : List Char)
    (h : splitFilter? body = some (expr, .text)) :
    ((∀ root path, ¬Rooted expr root path) →
      (parse (String.ofList (expand false body)) =
          .ok (titleOf [.literal (.string (String.ofList expr))]) ↔ '\'' ∉ expr ∧ '\\' ∉ expr)) ∧
    ∀ root path, Rooted expr root path → isFreeName (String.ofList root) = true →
      (parse (String.ofList (expand false body)) =
          .ok (titleOf [.name (String.ofList root), .literal (.string (String.ofList path))]) ↔
        '\'' ∉ path ∧ '\\' ∉ path) := by
  refine ⟨fun hroot => ?_, fun root path hroot hname => ?_⟩
  · have htitle := spliced_title (String.ofList expr)
    rw [String.toList_ofList] at htitle
    rw [expand_unrooted h hroot]
    exact htitle
  · have htitle := rooted_title hname (String.ofList path)
    rw [String.toList_ofList (l := root), String.toList_ofList (l := path)] at htitle
    rw [expand_rooted h hroot]
    exact htitle

theorem title_takes_plain_text_brackets :
    let whole := "m[\"a(\"] | text".toList
    let below := "order?.lines[0].f(\"a\", b) | text".toList
    splitFilter? whole = some ("m[\"a(\"]".toList, .text) ∧
      parse (String.ofList (expand false whole)) = .ok (titleOf [.literal (.string "m[\"a(\"]")]) ∧
      splitFilter? below = some ("order?.lines[0].f(\"a\", b)".toList, .text) ∧
      parse (String.ofList (expand false below)) =
        .ok (titleOf [.name "order", .literal (.string "lines[0].f(\"a\", b)")]) := by
  intro whole below
  have hwhole : splitFilter? whole = some ("m[\"a(\"]".toList, .text) := by decide
  have hbelow : splitFilter? below = some ("order?.lines[0].f(\"a\", b)".toList, .text) := by decide
  have hnone : rootedPath? "m[\"a(\"]".toList = none := by decide
  have hfound : rootedPath? "order?.lines[0].f(\"a\", b)".toList =
      some ("order".toList, "lines[0].f(\"a\", b)".toList) := by decide
  have htitle := (title_takes_plain_text whole _ hwhole).1 (rootedPath_none.mp hnone)
  have htitles :=
    (title_takes_plain_text below _ hbelow).2 _ _ (rootedPath_iff.mp hfound) (by decide)
  simp only [String.ofList_toList] at htitle htitles
  exact ⟨hwhole, htitle.mpr (by decide), hbelow, htitles.mpr (by decide)⟩

/-- A single quote in an expression ends the text of the title. -/
theorem quote_ends_title :
    let body := "m['a'] | text".toList
    .interpolation body ∈ segments "$\x7bm['a'] | text\x7d".toList ∧
      splitFilter? body = some ("m['a']".toList, .text) ∧
      (∀ root path, ¬Rooted "m['a']".toList root path) ∧
      parse (String.ofList (expand false body)) ≠ .ok (titleOf [.literal (.string "m['a']")]) := by
  intro body
  have hnext : next? "$\x7bm['a'] | text\x7d".toList = some ([], body, []) := by decide
  have hfilter : splitFilter? body = some ("m['a']".toList, .text) := by decide
  have hunrooted : ∀ root path, ¬Rooted "m['a']".toList root path := rootedPath_none.mp (by decide)
  refine ⟨?_, hfilter, hunrooted, fun h => ?_⟩
  · rw [segments_next hnext]
    simp
  · rw [expand_unrooted hfilter hunrooted] at h
    exact absurd ((spliced_title "m['a']").mp h) (by decide)

end ActionDispatch.Template
