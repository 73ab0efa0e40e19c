import ActionDispatch.Proofs.Template.Expansion

/-!
# Strings in interpolated scripts

Where an interpolation ends is decided by a reader of its own, which knows quotes and backslashes
but not that three quotes open a string of another kind. Between single and double quotes it keeps
step with the parser of scripts. Outside of strings a script has nothing that changes the place of
the reader, so that a script is found as one interpolation just where the reader comes through its
strings.
-/

set_option autoImplicit false

namespace ActionDispatch

namespace Script
open Text

variable {s r content : List Char} {q c : Char}

theorem string_shorter (h : string? q s = some (content, r)) : r.length < s.length := by
  obtain ⟨y, rfl⟩ := string_closes h
  simp only [List.length_append, List.length_cons]
  omega

def strings (s : List Char) : List (List Char) :=
  match s with
  | [] => []
  | c :: s =>
    if c = '"' ∨ c = '\'' then
      match _h : string? c s with
      | some (_, rest) => (c :: s.take (s.length - rest.length)) :: strings rest
      | none => strings s
    else strings s
termination_by s.length
decreasing_by
  · exact Nat.lt_succ_of_lt (string_shorter _h)
  all_goals exact Nat.lt_succ_self _

theorem strings_nil : strings [] = [] := by
  rw [strings]

theorem strings_passed (hc : ¬IsQuote c) (s : List Char) : strings (c :: s) = strings s := by
  have hno : ¬(c = '"' ∨ c = '\'') := hc
  rw [strings, if_neg hno]

theorem strings_behind {m : List Char} (hm : ∀ c ∈ m, ¬IsQuote c) (s : List Char) :
    strings (m ++ s) = strings s := by
  induction m with
  | nil => rfl
  | cons c m ih =>
    obtain ⟨hc, hrest⟩ := List.forall_mem_cons.mp hm
    rw [List.cons_append, strings_passed hc, ih hrest]

theorem strings_string {y : List Char} (hq : IsQuote q)
    (h : string? q (y ++ r) = some (content, r)) :
    strings (q :: (y ++ r)) = (q :: y) :: strings r := by
  have hquote : q = '"' ∨ q = '\'' := hq
  rw [strings, if_pos hquote]
  split
  next rest hrest =>
    rw [h] at hrest
    cases hrest
    simp
  next hnone =>
    rw [h] at hnone
    cases hnone

end Script

namespace Template
open Script Text

variable {s r content inside : List Char} {q c : Char} {ts : List Token} {depth d : Nat}
  {p p' : Place}

def Place.Settled : Place → Prop
  | .escaped _ => False
  | _ => True

theorem settled_kept (hq : p.Quotes) (hp : p.Settled) (hc : Inert c) (hb : c ≠ '\\') :
    advance (depth, p) c = some (depth, p) := by
  cases p with
  | code => exact inert_code hc
  | quoted q =>
    have hno : c ≠ q := by
      rintro rfl
      rcases hq with rfl | rfl <;> simp [Inert] at hc
    simp [advance, Place.after, hb, hno]
  | escaped q => exact hp.elim

/-- Text outside of strings does not move a reader, wherever it stands. -/
theorem outside_kept {m : List Char} (hq : p.Quotes) (hp : p.Settled)
    (hm : ∀ c ∈ m, Inert c ∧ c ≠ '\\') : m.foldlM advance (depth, p) = some (depth, p) := by
  induction m with
  | nil => rfl
  | cons c m ih =>
    obtain ⟨⟨hc, hb⟩, hrest⟩ := List.forall_mem_cons.mp hm
    rw [List.foldlM_cons, settled_kept hq hp hc hb]
    exact ih hrest

theorem settled_behind (hc : c ≠ '\\') (h : advance (depth, p) c = some (d, p')) : p'.Settled := by
  cases p with
  | code =>
    simp only [advance, Place.after] at h
    split at h
    next => cases h; trivial
    next =>
      split at h
      next =>
        split at h
        next => cases h
        next => cases h; trivial
      next =>
        cases h
        split <;> trivial
  | quoted q =>
    simp only [advance, Place.after, if_neg hc, Option.some.injEq, Prod.mk.injEq] at h
    obtain ⟨-, rfl⟩ := h
    split <;> trivial
  | escaped q =>
    cases h
    trivial

theorem settled_string {x : List Char} (hq : IsQuote q)
    (h : (x ++ [q]).foldlM advance (depth, p) = some (d, p')) : p'.Settled := by
  have hb : q ≠ '\\' := by rcases hq with rfl | rfl <;> decide
  rw [List.foldlM_append] at h
  obtain ⟨⟨d₁, p₁⟩, -, hlast⟩ := Option.bind_eq_some_iff.mp h
  rw [List.foldlM_cons] at hlast
  obtain ⟨⟨d₂, p₂⟩, hstep, hend⟩ := Option.bind_eq_some_iff.mp hlast
  cases hend
  exact settled_behind hb hstep

def Outside (m : List Char) : Prop := ∀ c ∈ m, ¬IsQuote c ∧ Inert c ∧ c ≠ '\\'

theorem unspelled_outside (h : ∀ c ∈ '"' :: '\'' :: strange, c ∉ s) : Outside s := by
  have hno : ∀ {c d : Char}, c ∈ s → d ∈ '"' :: '\'' :: strange → c ≠ d := by
    rintro c d hc hd rfl
    exact h c hd hc
  intro c hc
  refine ⟨?_, ?_, hno hc (by decide)⟩
  · rintro (rfl | rfl)
    · exact hno hc (by decide) rfl
    · exact hno hc (by decide) rfl
  · intro hin
    simp only [List.mem_cons, List.not_mem_nil, or_false] at hin
    rcases hin with rfl | rfl | rfl | rfl <;> exact hno hc (by decide) rfl

theorem plain_outside (hc : c ∉ scanned ++ strange) : Outside [c] := by
  refine unspelled_outside fun d hd hin => ?_
  obtain rfl := List.mem_singleton.mp hin
  have hall : ∀ d ∈ '"' :: '\'' :: strange, d ∈ scanned ++ strange := by
    simp [scanned, strange]
  exact hc (hall d hd)

/-- A reader comes out of a whole script where it comes out of the strings of the script, one behind
the other. -/
theorem strings_read (h : Lexes s ts []) (hq : p.Quotes) (hp : p.Settled) :
    s.foldlM advance (depth, p) = (strings s).flatten.foldlM advance (depth, p) := by
  have houtside : ∀ {m s : List Char} {depth : Nat} {p : Place}, Outside m → p.Quotes → p.Settled →
      s.foldlM advance (depth, p) = (strings s).flatten.foldlM advance (depth, p) →
      (m ++ s).foldlM advance (depth, p) =
        (strings (m ++ s)).flatten.foldlM advance (depth, p) := by
    intro m s depth p hm hq hp ih
    rw [List.foldlM_append, outside_kept hq hp fun c hc => (hm c hc).2,
      strings_behind fun c hc => (hm c hc).1]
    exact ih
  generalize hend : [] = rest at h
  induction h generalizing depth p with
  | done => rw [← hend, strings_nil]; rfl
  | plain hc _ ih => exact houtside (plain_outside hc) hq hp (ih hq hp hend)
  | mark hm _ ih =>
    have hmark := unspelled_outside fun c hc => hm.lacks c (List.mem_cons_of_mem _ hc)
    exact houtside hmark hq hp (ih hq hp hend)
  | bars _ _ ih =>
    exact houtside (m := ['|', '|']) (unspelled_outside (by simp [strange])) hq hp (ih hq hp hend)
  | negation _ _ ih =>
    exact houtside (m := ['!']) (unspelled_outside (by simp [strange])) hq hp (ih hq hp hend)
  | @string q s r content rest ts hquote hs _ _ ih =>
    obtain ⟨y, rfl⟩ := string_closes hs
    have hsplit : y ++ q :: r = (y ++ [q]) ++ r := by simp
    rw [hsplit] at hs ⊢
    rw [strings_string hquote hs, List.flatten_cons, ← List.cons_append, List.foldlM_append,
      List.foldlM_append]
    -- Both readers have come through the same string, and stand behind a quote.
    cases hread : (q :: (y ++ [q])).foldlM advance (depth, p) with
    | none => rfl
    | some state =>
      obtain ⟨d, p'⟩ := state
      exact ih (read_quotes hq hread) (settled_string (x := q :: y) hquote hread) hend

def Passed (q : Char) (inside : List Char) : Prop :=
  inside.foldlM advance (0, .quoted q) = some (0, .quoted q)

instance (q : Char) (inside : List Char) : Decidable (Passed q inside) :=
  inferInstanceAs (Decidable (_ = _))

theorem quote_opens (hq : IsQuote q) : advance (0, .code) q = some (0, .quoted q) := by
  rcases hq with rfl | rfl <;> rfl

theorem quote_closes (hq : IsQuote q) : advance (0, .quoted q) q = some (0, .code) := by
  rcases hq with rfl | rfl <;> rfl

theorem single_closed (hq : IsQuote q) (h : Passed q inside) : Closed (q :: (inside ++ [q])) := by
  rw [Closed, List.foldlM_cons, quote_opens hq]
  simp only [Option.bind_eq_bind, Option.bind_some]
  rw [List.foldlM_append, h]
  simp only [Option.bind_eq_bind, Option.bind_some]
  rw [List.foldlM_cons, quote_closes hq]
  rfl

def triple (q : Char) (inside : List Char) : List Char := q :: q :: q :: (inside ++ [q, q, q])

theorem triple_inj {q' : Char} {inside' : List Char} (h : triple q inside = triple q' inside') :
    q = q' ∧ inside = inside' := by
  obtain ⟨rfl, h⟩ := List.cons.inj h
  exact ⟨rfl, List.append_cancel_right (List.cons.inj (List.cons.inj h).2).2⟩

theorem triple_closed (hq : IsQuote q) (h : Passed q inside) : Closed (triple q inside) := by
  have hnothing : Passed q [] := rfl
  have hempty : Closed [q, q] := single_closed hq hnothing
  have hsplit : triple q inside = [q, q] ++ (q :: (inside ++ [q])) ++ [q, q] := by
    simp [triple]
  rw [hsplit]
  exact closed_append (closed_append hempty (single_closed hq h)) hempty

/-- Between quotes of one kind the reader keeps step with the parser. -/
theorem content_passed (h : quotedContent? q s = some (content, r)) :
    ∃ inside, s = inside ++ q :: r ∧ Passed q inside := by
  fun_induction quotedContent? q s generalizing content with
  | case1 => cases h
  | case2 => cases h
  | case3 c s ih =>
    obtain ⟨⟨content', r'⟩, hc, heq⟩ := Option.map_eq_some_iff.mp h
    simp only [Prod.mk.injEq] at heq
    obtain ⟨rfl, rfl⟩ := heq
    obtain ⟨inside, rfl, hpassed⟩ := ih hc
    exact ⟨'\\' :: c :: inside, rfl, hpassed⟩
  | case4 s =>
    simp only [Option.some.injEq, Prod.mk.injEq] at h
    exact ⟨[], by rw [h.2]; rfl, rfl⟩
  | case5 c s hend hescape hne ih =>
    obtain ⟨⟨content', r'⟩, hc, heq⟩ := Option.map_eq_some_iff.mp h
    simp only [Prod.mk.injEq] at heq
    obtain ⟨rfl, rfl⟩ := heq
    obtain ⟨inside, rfl, hpassed⟩ := ih hc
    have hb : c ≠ '\\' := by
      intro hb
      cases hrest : inside ++ q :: r' with
      | nil => exact hend hb hrest
      | cons d rest => exact hescape d rest hb hrest
    refine ⟨c :: inside, rfl, ?_⟩
    rw [Passed, List.foldlM_cons]
    simp only [advance, Place.after, if_neg hb, if_neg hne]
    exact hpassed

theorem string_forms (h : string? q s = some (content, r)) :
    ∃ y, s = y ++ r ∧ ((∃ inside, y = inside ++ [q] ∧ Passed q inside) ∨
      ∃ inside, q :: y = triple q inside) := by
  unfold string? at h
  split at h
  next found hfound =>
    obtain ⟨body, ha, hc⟩ := Option.bind_eq_some_iff.mp hfound
    cases h
    exact ⟨q :: q :: (content ++ [q, q, q]), by rw [of_after ha, of_cut hc]; simp,
      .inr ⟨content, rfl⟩⟩
  next =>
    obtain ⟨inside, rfl, hpassed⟩ := content_passed h
    exact ⟨inside ++ [q], by simp, .inl ⟨inside, rfl, hpassed⟩⟩

theorem strings_forms {w : List Char} (hw : w ∈ strings s) :
    Closed w ∨ ∃ q inside, IsQuote q ∧ w = triple q inside := by
  fun_induction strings s with
  | case1 => cases hw
  | case2 c s hq content rest h ih =>
    rcases List.mem_cons.mp hw with rfl | hw
    · obtain ⟨y, rfl, hform⟩ := string_forms h
      have htake : (y ++ rest).take ((y ++ rest).length - rest.length) = y := by simp
      rw [htake]
      rcases hform with ⟨inside, rfl, hpassed⟩ | ⟨inside, htriple⟩
      · exact .inl (single_closed hq hpassed)
      · exact .inr ⟨c, inside, hq, htriple⟩
    · exact ih hw
  | case3 c s hq h ih => exact ih hw
  | case4 c s hq ih => exact ih hw

theorem flatten_closed {ws : List (List Char)} (h : ∀ w ∈ ws, Closed w) : Closed ws.flatten := by
  induction ws with
  | nil => rfl
  | cons w ws ih =>
    obtain ⟨hw, hrest⟩ := List.forall_mem_cons.mp h
    exact closed_append hw (ih hrest)

/-- A text without backslashes and the quote of the string is passed. -/
theorem clear_passed (hb : '\\' ∉ inside) (hq : q ∉ inside) : Passed q inside := by
  induction inside with
  | nil => rfl
  | cons c inside ih =>
    simp only [List.mem_cons, not_or] at hb hq
    rw [Passed, List.foldlM_cons]
    simp only [advance, Place.after, if_neg (Ne.symm hb.1), if_neg (Ne.symm hq.1)]
    exact ih hb.2 hq.2

variable {t : List Char} {e : Expr}

theorem whole_iff : segments (Segment.interpolation t).source = [.interpolation t] ↔ Closed t :=
  ⟨fun h => bodies_closed (s := (Segment.interpolation t).source) (by simp [h]), segments_alone⟩

/-- An accepted script is found as one interpolation just where its strings, one behind the other,
are. So they are if what stands between three quotes is passed like what stands between single ones.
-/
theorem interpolated_script_found (h : parse (String.ofList t) = .ok e) :
    (segments (Segment.interpolation t).source = [.interpolation t] ↔
      segments (Segment.interpolation (strings t).flatten).source =
        [.interpolation (strings t).flatten]) ∧
    ((∀ q inside, triple q inside ∈ strings t → Passed q inside) →
      segments (Segment.interpolation t).source = [.interpolation t]) := by
  obtain ⟨ts, hlexes, -⟩ := parseWithin_lexes (accepted_within h)
  have hread : t.foldlM advance (0, .code) = (strings t).flatten.foldlM advance (0, .code) :=
    strings_read ((space_lexes t).trans hlexes) trivial trivial
  have hclosed : Closed t ↔ Closed (strings t).flatten := by rw [Closed, Closed, hread]
  refine ⟨whole_iff.trans (hclosed.trans whole_iff.symm), fun hpassed => ?_⟩
  refine whole_iff.mpr (hclosed.mpr (flatten_closed fun w hw => ?_))
  rcases strings_forms hw with hform | ⟨q, inside, hq, rfl⟩
  · exact hform
  · exact triple_closed hq (hpassed q inside hw)

theorem accepted_of_isOk {text : String} (h : (parse text).isOk = true) :
    ∃ e, parse text = .ok e := by
  cases hp : parse text with
  | ok e => exact ⟨e, rfl⟩
  | error failure =>
    rw [hp] at h
    cases h

def mixedStrings : List Char := "'\x7d\\'' + \"\"\"\x7b'\"\"\"".toList

theorem interpolated_script_found_mixed :
    (parse (String.ofList mixedStrings)).isOk = true ∧
      segments (Segment.interpolation mixedStrings).source = [.interpolation mixedStrings] := by
  have hparse : (parse (String.ofList mixedStrings)).isOk = true := by decide +kernel
  obtain ⟨e, he⟩ := accepted_of_isOk hparse
  have hstrings : strings mixedStrings = ["'\x7d\\''".toList, triple '"' "\x7b'".toList] := by
    have hsingle : string? '\'' ("\x7d\\''".toList ++ " + \"\"\"\x7b'\"\"\"".toList) =
        some ("\x7d'".toList, " + \"\"\"\x7b'\"\"\"".toList) := by decide
    have htriple : string? '"' ("\"\"\x7b'\"\"\"".toList ++ []) = some ("\x7b'".toList, []) := by
      decide
    calc strings mixedStrings
      _ = "'\x7d\\''".toList :: strings " + \"\"\"\x7b'\"\"\"".toList :=
        strings_string (.inr rfl) hsingle
      _ = "'\x7d\\''".toList :: strings ('"' :: ("\"\"\x7b'\"\"\"".toList ++ [])) :=
        congrArg _ (strings_behind (m := " + ".toList) (by simp [IsQuote]) _)
      _ = ["'\x7d\\''".toList, triple '"' "\x7b'".toList] := by
        rw [strings_string (.inl rfl) htriple, strings_nil]
        rfl
  refine ⟨hparse, (interpolated_script_found he).2 fun q inside hin => ?_⟩
  rw [hstrings] at hin
  simp only [List.mem_cons, List.not_mem_nil, or_false] at hin
  rcases hin with hsingle | htriple
  · obtain ⟨rfl, htail⟩ := List.cons.inj hsingle
    cases (List.cons.inj htail).1
  · obtain ⟨rfl, hinside⟩ := triple_inj htriple
    rw [hinside]
    exact clear_passed (by decide) (by decide)

/-- Between three quotes the reader takes the first quote for the end of a string. -/
theorem quote_between_quotes :
    (parse (String.ofList "\"\"\"a\"b\"\"\"".toList)).isOk = true ∧
      segments (Segment.interpolation "\"\"\"a\"b\"\"\"".toList).source =
        [.text "$\x7b\"\"\"a\"b\"\"\"\x7d".toList] := by
  have hnone : next? (Segment.interpolation "\"\"\"a\"b\"\"\"".toList).source = none := by decide
  exact ⟨by decide +kernel, segments_text hnone⟩

end Template

end ActionDispatch
