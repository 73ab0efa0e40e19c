import ActionDispatch.Expression
import ActionDispatch.Proofs.Script.Lexemes
import ActionDispatch.Proofs.Script.RoundTrip
import ActionDispatch.Proofs.Text.Trim

/-!
# Calls on bodies of expressions

The script in which a method is called on the body of an expression. The body stands between three
quotes, as one word behind the words of the path to the method.
-/

set_option autoImplicit false

namespace ActionDispatch.Script
open Text

def pathOf (first : String) (members : List String) : Expr :=
  members.foldl (fun target member => .property target member false) (.name first)

def callOf (first : String) (members : List String) (args : List Expr) : Expr :=
  match members.getLast? with
  | none => .call first args
  | some method => .invoke (pathOf first members.dropLast) method args false

theorem path_concat (first member : String) (members : List String) :
    pathOf first (members ++ [member]) = .property (pathOf first members) member false := by
  simp [pathOf]

theorem call_concat (first method : String) (members : List String) (args : List Expr) :
    callOf first (members ++ [method]) args = .invoke (pathOf first members) method args false := by
  simp [callOf]

def pathWords (first : String) (members : List String) : List Word :=
  first.toList :: members.flatMap fun member => [['.'], member.toList]

theorem pathWords_concat (first member : String) (members : List String) :
    pathWords first (members ++ [member]) = pathWords first members ++ [['.'], member.toList] := by
  simp [pathWords]

theorem path_looseness (first : String) (members : List String) :
    (pathOf first members).looseness = 0 := by
  rcases List.eq_nil_or_concat members with rfl | ⟨init, last, rfl⟩
  · rfl
  · rw [List.concat_eq_append, path_concat]
    rfl

theorem path_words (first : String) (members : List String) :
    (pathOf first members).words = pathWords first members := by
  induction members using List.reverseRecOn with
  | nil => rfl
  | append_singleton members member ih =>
    rw [path_concat, pathWords_concat, ← ih]
    simp [Expr.words, path_looseness, enclose, point]

theorem path_within (first : String) (members : List String) :
    (pathOf first members).wordsWithin 0 = pathWords first members := by
  simp [Expr.wordsWithin, enclose, path_looseness, path_words]

theorem path_writable {first : String} {members : List String} (hf : isFreeName first = true)
    (hm : ∀ member ∈ members, isName member.toList = true) :
    (pathOf first members).writable = true := by
  induction members using List.reverseRecOn with
  | nil => exact hf
  | append_singleton members member ih =>
    rw [path_concat]
    simp [Expr.writable, ih fun m h => hm m (by simp [h]), hm member (by simp)]

theorem path_text (first : String) (members : List String) :
    (".".intercalate (first :: members)).toList = (pathWords first members).flatten := by
  induction members generalizing first with
  | nil => simp [pathWords]
  | cons member members ih =>
    rw [String.intercalate_cons_cons, String.toList_append, String.toList_append, ih]
    simp [pathWords]

def Wraps (body : String) : Prop :=
  (strip body).toList.head? ≠ some '(' ∧ Expression.isQuoted (strip body).toList = false

def bodyWord (body : String) : Word := quotes ++ (strip body).toList ++ quotes

theorem wrapped_text {body : String} (h : Wraps body) (first : String) (members : List String) :
    (Expression.asCall (".".intercalate (first :: members)) body).toList =
      (pathWords first members).flatten ++ '(' :: bodyWord body ++ [')'] := by
  have hthree : "(\"\"\"".toList = '(' :: quotes ∧ "\"\"\")".toList = quotes ++ [')'] := by decide
  simp only [Expression.asCall, if_neg h.1, h.2, Bool.false_eq_true, if_false, String.toList_append,
    path_text, hthree, bodyWord]
  simp

theorem operand_accepted {levels : Nat} {e : Expr} {ts : List Word} {s : List Char}
    (hno : mark? "!" s = none) (hs : Stopped 6 ts) (h : Arrives levels 0 e ts s) :
    Accepts (expression (levels + 1)) e ts s := by
  have harr := climb (m := 0) (fun _ => hno) (fun _ => h) 6 (by decide) (follows_stopped hs)
  rw [expression_outermost]
  exact arrives_accepts (Nat.le_refl 6) hs harr

/-- A string between three quotes ends at the next three of them. -/
theorem quotes_string {s content r : List Char} (h : cut? quotes s = some (content, r)) :
    string? '"' ('"' :: '"' :: s) = some (content, r) := by
  simp only [string?, after?, if_true, Option.bind_some]
  rw [← quotes, h]

theorem quotes_primary (nested : Parser Expr) {s content r : List Char}
    (h : cut? quotes s = some (content, r)) :
    primary nested (quotes ++ s) = .accept (.literal (.string (String.ofList content))) r := by
  simp [quotes, primary, literal, quotes_string h]

theorem body_opens (body : String) : opensOperand (bodyWord body) = true := rfl

theorem body_read {levels : Nat} {body : String} {ts : List Word} {s : List Char}
    (hq : Quotable (strip body).toList) (hs : Stopped 6 ts) (h : Ahead (bodyWord body :: ts) s) :
    Accepts (expression (levels + 1)) (.literal (.string (strip body))) ts s := by
  obtain ⟨r, hskip, hr⟩ := ahead_cons h
  have hno : mark? "!" s = none := opens_no_mark (body_opens body) h
  refine operand_accepted hno hs (primary_arrives (r := r) ?_ hr)
  rw [hskip, bodyWord, List.append_assoc, List.append_assoc,
    ← List.append_assoc (strip body).toList,
    quotes_primary _ ((cut_quotes _ r).mpr hq), String.ofList_toList]

theorem argument_read {nested : Parser Expr} {e : Expr} {us ts : List Word} {s : List Char}
    (he : ∀ r, Ahead (us ++ [')'] :: ts) r → Accepts nested e ([')'] :: ts) r)
    (h : Ahead (['('] :: us ++ [')'] :: ts) s) : Accepts (arguments nested) [e] ts s := by
  obtain ⟨r, hm, hr⟩ := mark_found "(" rfl h
  have hitems : Accepts (items nested) [e] ([')'] :: ts) (skipSpace r) := by
    obtain ⟨r', hp, hr'⟩ := he _ (ahead_skip hr)
    have hno : mark? "," r' = none := mark_missing "," rfl hr'
    refine ⟨r', ?_, hr'⟩
    cases hl : r'.length <;> simp [items, hp, hl, itemsFrom, hno, Reply.map, Reply.andThen]
  obtain ⟨r', hp, hr'⟩ := closed_read ")" rfl hitems
  exact ⟨r', by simpa [arguments, hm] using hp, hr'⟩

theorem method_arrives {levels : Nat} {target : Expr} {method : String} {args : List Expr}
    {us ts : List Word} {s : List Char} (ht : target.writable = true)
    (hm : isName method.toList = true)
    (hlen : (target.wordsWithin 0 ++ (point false :: method.toList :: ['('] :: us)).length ≤
      levels + 1)
    (hargs : ∀ r, Ahead (['('] :: us ++ ts) r → Accepts (arguments (expression levels)) args ts r)
    (h : Ahead (target.wordsWithin 0 ++ (point false :: method.toList :: ['('] :: us) ++ ts) s) :
    Arrives levels 0 (.invoke target method args false) ts s := by
  refine suffix_arrives (writable_legible _ ht) ht (by simp) (.member false hm) hlen ?_ h
  intro steps r hr
  obtain ⟨r', hr', hahead⟩ := member_read false hm (fun _ => bracket_name_ends) hr
  obtain ⟨r'', hq, hr''⟩ := hargs r' hahead
  exact ⟨r'', by simp [suffixesFrom, hr', hq], hr''⟩

/-- The parser comes to the call of a path where it reads the arguments behind it. -/
theorem call_arrives {levels : Nat} {first : String} {members : List String} {args : List Expr}
    {us ts : List Word} {s : List Char} (hf : isFreeName first = true)
    (hm : ∀ member ∈ members, isName member.toList = true)
    (hlen : (pathWords first members ++ ['('] :: us).length ≤ levels + 1)
    (hargs : ∀ r, Ahead (['('] :: us ++ ts) r → Accepts (arguments (expression levels)) args ts r)
    (h : Ahead (pathWords first members ++ ['('] :: us ++ ts) s) :
    Arrives levels 0 (callOf first members args) ts s := by
  rcases List.eq_nil_or_concat members with rfl | ⟨init, method, rfl⟩
  · obtain ⟨r, hs, hr⟩ := ahead_cons h
    obtain ⟨r', hp, hr'⟩ := hargs r hr
    have hname : isName first.toList = true := by simp_all [isFreeName]
    refine primary_arrives (r := r') ?_ hr'
    rw [hs, name_primary _ hname, named_free _ hf (bracket_name_ends hr), hp]
    rfl
  · rw [List.concat_eq_append] at hm hlen h ⊢
    have hw : (pathOf first init).writable = true :=
      path_writable hf fun m hmem => hm m (by simp [hmem])
    have hwords : pathWords first (init ++ [method]) ++ ['('] :: us =
        (pathOf first init).wordsWithin 0 ++ (point false :: method.toList :: ['('] :: us) := by
      simp [path_within, pathWords_concat, point]
    rw [call_concat]
    rw [hwords] at h hlen
    exact method_arrives hw (hm method (by simp)) hlen hargs h

theorem path_marks {first : String} {members : List String} (hf : isName first.toList = true)
    (hm : ∀ member ∈ members, isName member.toList = true) (s : List Char) :
    marks ((pathWords first members).flatten ++ '(' :: s) =
      List.replicate members.length .operator ++ .opening :: marks s := by
  induction members generalizing first with
  | nil =>
    have hname : name? (first.toList ++ '(' :: s) = some _ := name_read hf rfl
    have hopen : marks ('(' :: s) = .opening :: marks s := marks_counted (by decide) rfl
    simp [pathWords, name_passed hname, hopen]
  | cons member members ih =>
    have hrest := ih (hm member (by simp)) fun m h => hm m (by simp [h])
    have hsplit : (pathWords first (member :: members)).flatten ++ '(' :: s =
        first.toList ++ '.' :: ((pathWords member members).flatten ++ '(' :: s) := by
      simp [pathWords]
    have hname : name? (first.toList ++ '.' :: ((pathWords member members).flatten ++ '(' :: s)) =
        some _ := name_read hf rfl
    have hpoint : ∀ r, marks ('.' :: r) = .operator :: marks r :=
      fun r => marks_counted (by decide) rfl
    rw [hsplit, name_passed hname, hpoint, hrest, List.length_cons, List.replicate_succ,
      List.cons_append]

theorem body_marks {body : String} (hq : Quotable (strip body).toList) :
    marks (bodyWord body ++ [')']) = [.closing] := by
  have hstring := quotes_string ((cut_quotes (strip body).toList [')']).mpr hq)
  have hclose : marks [')'] = .closing :: marks [] := marks_counted (by decide) rfl
  have hpass := (string_passed (.inl rfl) hstring).resolve_right (by decide)
  rw [marks_nil] at hclose
  rw [← hclose, ← hpass, bodyWord, quotes]
  simp

theorem operators_steps (n : Nat) :
    (List.replicate n Token.operator).foldl Levels.step Levels.start = ⟨n, [], n, n⟩ := by
  induction n with
  | zero => rfl
  | succ n ih =>
    rw [List.replicate_succ', List.foldl_append, ih]
    simp [Levels.step, Levels.count]

/-- The path counts with its points, and the body not at all. -/
theorem wrapped_nesting {first body : String} {members : List String}
    (hf : isName first.toList = true) (hm : ∀ member ∈ members, isName member.toList = true)
    (hq : Quotable (strip body).toList) :
    nesting ((pathWords first members).flatten ++ '(' :: bodyWord body ++ [')']) =
      members.length + 1 := by
  rw [nesting_marks, List.append_assoc, List.cons_append, path_marks hf hm, body_marks hq,
    List.foldl_append, operators_steps]
  simp [Levels.step, Levels.count]

theorem path_solid {first : String} {members : List String} (hf : isFreeName first = true)
    (hm : ∀ member ∈ members, isName member.toList = true) : AllSolid (pathWords first members) :=
  path_words first members ▸ words_solid _ (path_writable hf hm)

theorem call_spells {us : List Word} {t : List Char} (first : String) (members : List String)
    (h : Spells us t) :
    Spells (pathWords first members ++ ['('] :: us)
      ((pathWords first members).flatten ++ '(' :: t) := by
  have hempty : Blank [] := by decide
  exact spells_behind _ (.cons hempty h)

theorem call_ahead {first : String} {members : List String} {us : List Word} {t : List Char}
    (hf : isFreeName first = true) (hm : ∀ member ∈ members, isName member.toList = true)
    (hus : AllSolid us) (h : Spells us t) :
    Ahead (pathWords first members ++ ['('] :: us)
      ((pathWords first members).flatten ++ '(' :: t) := by
  have hbracket : AllSolid (['('] :: us) := all_solid_cons.mpr ⟨rfl, hus⟩
  exact ⟨all_solid_append.mpr ⟨path_solid hf hm, hbracket⟩, call_spells first members h⟩

/-- What the parser of whole texts has in front of it, and with what allowance. -/
theorem call_in_front {text first : String} {members : List String} {t : Word} {us : List Word}
    (hf : isFreeName first = true)
    (hahead : Ahead (pathWords first members ++ ['('] :: t :: us) text.toList) :
    ∃ levels, text.toList.length = levels + 2 ∧
      (pathWords first members).length + us.length ≤ levels ∧
      mark? "!" (skipSpace text.toList) = none ∧
      Ahead (pathWords first members ++ ['('] :: t :: us) (skipSpace text.toList) := by
  have hname : isName first.toList = true := by simp_all [isFreeName]
  have hcount := ahead_length hahead
  simp only [List.length_append, List.length_cons] at hcount
  obtain ⟨levels, hlevels⟩ := Nat.exists_eq_add_of_le' (Nat.le_trans (Nat.le_add_left 2 _) hcount)
  have hskip := ahead_skip hahead
  exact ⟨levels, hlevels, by omega, opens_no_mark (name_opens hname) hskip, hskip⟩

/-- A call of a path is read as a whole text where its arguments are read behind the path. -/
theorem call_parses {text first : String} {members : List String} {t : Word} {us : List Word}
    {args : List Expr} (hf : isFreeName first = true)
    (hm : ∀ member ∈ members, isName member.toList = true)
    (hahead : Ahead (pathWords first members ++ ['('] :: t :: us) text.toList)
    (hargs : ∀ levels r, text.toList.length = levels + 2 → Ahead (['('] :: t :: us) r →
      Accepts (arguments (expression (levels + 1))) args [] r)
    (hn : nesting text.toList ≤ maxNesting) : parse text = .ok (callOf first members args) := by
  obtain ⟨levels, hlevels, hcount, hno, hskip⟩ := call_in_front hf hahead
  have hwords : (pathWords first members ++ ['('] :: t :: us).length ≤ levels + 1 + 1 := by
    simp only [List.length_append, List.length_cons]
    omega
  have hread : ∀ r, Ahead (['('] :: t :: us ++ []) r →
      Accepts (arguments (expression (levels + 1))) args [] r := by
    intro r hr
    exact hargs levels r hlevels (by simpa using hr)
  refine accepted_parses ?_ hn
  rw [hlevels]
  exact operand_accepted hno trivial (call_arrives hf hm hwords hread (by simpa using hskip))

theorem wrapped_ahead {first body : String} {members : List String} (hf : isFreeName first = true)
    (hm : ∀ member ∈ members, isName member.toList = true) (hw : Wraps body) :
    Ahead (pathWords first members ++ [['('], bodyWord body, [')']])
      (Expression.asCall (".".intercalate (first :: members)) body).toList := by
  have hsolid : AllSolid [bodyWord body, [')']] := by
    simp only [all_solid_cons]
    exact ⟨rfl, rfl, all_solid_nil⟩
  have hspells : Spells [bodyWord body, [')']] (bodyWord body ++ [')']) := by
    simpa using spells_flatten [bodyWord body, [')']]
  rw [wrapped_text hw, List.append_assoc, List.cons_append]
  exact call_ahead hf hm hsolid hspells

/-- A call of a path on a body that can be quoted is read as the call on the body as it is. -/
theorem wrapped_parses {first body : String} {members : List String} (hf : isFreeName first = true)
    (hm : ∀ member ∈ members, isName member.toList = true) (hlen : members.length < maxNesting)
    (hw : Wraps body) (hq : Quotable (strip body).toList) :
    parse (Expression.asCall (".".intercalate (first :: members)) body) =
      .ok (callOf first members [.literal (.string (strip body))]) := by
  have hname : isName first.toList = true := by simp_all [isFreeName]
  have hstop : Stopped 6 [[')']] := by
    show [')'] ∈ stops 6
    decide
  have hargs : ∀ levels r, Ahead (['('] :: [bodyWord body] ++ [[')']]) r →
      Accepts (arguments (expression (levels + 1))) [.literal (.string (strip body))] [] r :=
    fun _ _ hr => argument_read (fun _ => body_read hq hstop) hr
  refine call_parses hf hm (wrapped_ahead hf hm hw) (fun levels r _ => hargs levels r) ?_
  rw [wrapped_text hw, wrapped_nesting hname hm hq]
  exact hlen

end ActionDispatch.Script
