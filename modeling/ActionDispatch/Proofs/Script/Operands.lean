import ActionDispatch.Proofs.Script.Lexing
import ActionDispatch.Proofs.Text.Runs

/-!
# Reading names and literals

A name, an integer or a quoted string in front of what may stand behind an operand is read to its
end and no further. A point behind an integer begins a member, since no name begins with a digit.
-/

set_option autoImplicit false

namespace ActionDispatch.Script
open Text

def NameEnds (s : List Char) : Prop := s.head?.all (fun c => !continuesName c) = true

theorem behind_name_ends {ts : List Word} {s : List Char} (hb : Behind ts) (h : Ahead ts s) :
    NameEnds s :=
  behind_head hb h (by decide)

theorem bracket_name_ends {ts : List Word} {s : List Char} (h : Ahead (['('] :: ts) s) :
    NameEnds s := by
  refine ahead_head h (by decide) ?_
  rintro t us ht
  obtain ⟨rfl, rfl⟩ := List.cons.inj ht
  decide

theorem name_read {n : Word} {s : List Char} (hn : isName n = true) (hs : NameEnds s) :
    name? (n ++ s) = some (String.ofList n, s) := by
  cases n with
  | nil => simp [isName] at hn
  | cons c n =>
    simp only [isName, Bool.and_eq_true, List.all_eq_true] at hn
    obtain ⟨h1, h2⟩ := run_split hn.2 hs
    simp [name?, hn.1, h1, h2]

theorem name_solid {n : Word} (hn : isName n = true) : isSolid n = true := by
  cases n with
  | nil => simp [isName] at hn
  | cons c n =>
    by_cases hc : isSpace c = true
    · have hno := space_holds (!startsName ·) (by decide) hc
      simp_all [isName]
    · simp [isSolid, hc]

theorem member_read {n : Word} {ts : List Word} {s : List Char} (safe : Bool)
    (hn : isName n = true) (hend : ∀ r, Ahead ts r → NameEnds r)
    (h : Ahead (point safe :: n :: ts) s) :
    ∃ r, member? s = some (safe, String.ofList n, r) ∧ Ahead ts r := by
  cases safe with
  | true =>
    obtain ⟨r, hm, hr⟩ := mark_found "?." rfl h
    obtain ⟨r', hs, hr'⟩ := ahead_cons hr
    exact ⟨r', by simp [member?, hm, hs, name_read hn (hend r' hr')], hr'⟩
  | false =>
    have hno : mark? "?." s = none := mark_missing "?." rfl h
    obtain ⟨r, hm, hr⟩ := mark_found "." rfl h
    obtain ⟨r', hs, hr'⟩ := ahead_cons hr
    exact ⟨r', by simp [member?, hno, hm, hs, name_read hn (hend r' hr')], hr'⟩

theorem member_missing {ts : List Word} {s : List Char} (h1 : bars ['?', '.'] ts = true)
    (h2 : bars ['.'] ts = true) (h : Ahead ts s) : member? s = none := by
  simp [member?, mark_missing "?." h1 h, mark_missing "." h2 h]

theorem content_step {q c : Char} (hb : c ≠ '\\') (s : List Char) :
    quotedContent? q (c :: s) = if c = q then some ([], s)
      else (quotedContent? q s).map fun found => (c :: found.1, found.2) := by
  rw [quotedContent?]
  · exact fun h => absurd h hb
  · exact fun _ _ h => absurd h hb

theorem quoted_read (cs s : List Char) :
    quotedContent? '\'' (cs.flatMap escapeChar ++ '\'' :: s) = some (cs, s) := by
  induction cs with
  | nil => simp [quotedContent?]
  | cons c cs ih =>
    by_cases hb : c = '\\'
    · subst c
      simp [escapeChar, quotedContent?, ih, unescape]
    by_cases hq : c = '\''
    · subst c
      simp [escapeChar, quotedContent?, ih, unescape]
    · rw [List.flatMap_cons, escapeChar, if_neg (by simp [hb, hq]), List.append_assoc]
      simp [content_step hb, hq, ih]

theorem string_read (cs : List Char) {s : List Char} (hs : s.head?.all (· != '\'') = true) :
    string? '\'' (cs.flatMap escapeChar ++ '\'' :: s) = some (cs, s) := by
  have hnone : after? ['\'', '\''] (cs.flatMap escapeChar ++ '\'' :: s) = none := by
    cases cs with
    | nil =>
      cases s with
      | nil => rfl
      | cons d s =>
        have hd : '\'' ≠ d := fun he => by simp [← he] at hs
        simp [after?, hd]
    | cons c cs =>
      by_cases hb : c = '\\'
      · simp [escapeChar, hb, after?]
      by_cases hq : c = '\''
      · simp [escapeChar, hq, after?]
      · simp [escapeChar, hb, hq, after?, Ne.symm hq]
  simp [string?, hnone, quoted_read]

def NumberEnds (s : List Char) : Prop :=
  s.head?.all (fun c => !c.isDigit) = true ∧
    ∀ r, s = '.' :: r → r.head?.all (fun c => !c.isDigit) = true

theorem name_not_digit {c : Char} (hc : startsName c = true) : c.isDigit = false := by
  cases hd : c.isDigit with
  | false => rfl
  | true =>
    have hno := digit_holds (!startsName ·) (by decide) hd
    simp_all

theorem behind_point {t : Word} {ts : List Word} (hb : Behind (('.' :: t) :: ts)) :
    t = [] ∧ ∃ n us, ts = n :: us ∧ isName n = true := by
  have hpoint : ∀ u ∈ stops 0, u.head? ≠ some '.' := by decide
  generalize hw : ('.' :: t) :: ts = ws at hb
  cases hb with
  | stopped hs =>
    subst hw
    exact absurd rfl (hpoint _ hs)
  | position => cases hw
  | @member n us safe hn =>
    obtain ⟨hp, rfl⟩ := List.cons.inj hw
    cases safe with
    | true => cases hp
    | false => exact ⟨(List.cons.inj hp).2, n, us, rfl, hn⟩

theorem behind_number_ends {ts : List Word} {s : List Char} (hb : Behind ts) (h : Ahead ts s) :
    NumberEnds s := by
  refine ⟨behind_head hb h (by decide), ?_⟩
  rintro r rfl
  rcases ahead_first h with hc | ⟨t, us, r', rfl, rfl, hr⟩
  · exact absurd hc (by decide)
  obtain ⟨rfl, n, vs, rfl, hn⟩ := behind_point hb
  refine ahead_head hr (by decide) ?_
  rintro u ws hu
  obtain ⟨rfl, rfl⟩ := List.cons.inj hu
  cases n with
  | nil => rfl
  | cons c n =>
    simp only [isName, Bool.and_eq_true] at hn
    simp [name_not_digit hn.1]

theorem digits_read {ds s : List Char} (hne : ds ≠ []) (hd : ∀ c ∈ ds, c.isDigit = true)
    (hs : NumberEnds s) : digits? (ds ++ s) = some (ds, none, s) := by
  obtain ⟨h1, h2⟩ := run_split hd hs.1
  have hemp : ds.isEmpty = false := by simpa using hne
  unfold digits?
  simp only [h1, h2, hemp, Bool.false_eq_true, if_false]
  split
  next rest =>
    have hnone := (run_split (t := []) (by simp) (hs.2 rest rfl)).1
    simp only [List.nil_append] at hnone
    simp [hnone]
  next => rfl

theorem reserved_read (nested : Parser Expr) {s : List Char} (hs : NameEnds s) :
    primary nested ("null".toList ++ s) = .accept (.literal .null) s ∧
      primary nested ("true".toList ++ s) = .accept (.literal (.bool true)) s ∧
      primary nested ("false".toList ++ s) = .accept (.literal (.bool false)) s := by
  have hname : ∀ w, isName w = true → name? (w ++ s) = some (String.ofList w, s) :=
    fun w hw => name_read hw hs
  refine ⟨?_, ?_, ?_⟩
  · have := hname "null".toList (by decide)
    simp_all [primary, named]
  · have := hname "true".toList (by decide)
    simp_all [primary, named]
  · have := hname "false".toList (by decide)
    simp_all [primary, named]

theorem integer_read (nested : Parser Expr) (n : Int64) {s : List Char} (hs : NumberEnds s) :
    primary nested ((toString n.toInt).toList ++ s) = .accept (.literal (.int n)) s := by
  obtain ⟨negative, ds, ht, hne, hd, hv⟩ := Decimal.integer_text n
  have hdigits := digits_read hne hd hs
  rw [ht]
  cases negative with
  | true =>
    have hn : number? true (ds ++ s) = some (.int n, s) := by simp_all [number?]
    simp [primary, literal, hn]
  | false =>
    have hn : number? false (ds ++ s) = some (.int n, s) := by simp_all [number?]
    cases ds with
    | nil => exact absurd rfl hne
    | cons c ds =>
      have hc := hd c (by simp)
      simp only [List.cons_append] at hn
      simp [primary, literal, hc, hn]

theorem quoted_word_read (nested : Parser Expr) (v : String) {s : List Char}
    (hs : s.head?.all (· != '\'') = true) :
    primary nested (quotedWord v ++ s) = .accept (.literal (.string v)) s := by
  have hr := string_read v.toList hs
  simp [primary, literal, quotedWord, hr]

theorem literal_read (nested : Parser Expr) {v : Value} {ts : List Word} {s : List Char}
    (hv : isWritable v = true) (hb : Behind ts) (h : Ahead ts s) :
    primary nested (literalWord v ++ s) = .accept (.literal v) s := by
  have hends := behind_name_ends hb h
  cases v with
  | null => exact (reserved_read nested hends).1
  | bool b =>
    cases b with
    | true => exact (reserved_read nested hends).2.1
    | false => exact (reserved_read nested hends).2.2
  | int n => exact integer_read nested n (behind_number_ends hb h)
  | string v => exact quoted_word_read nested v (behind_head hb h (by decide))
  | float | list | map | query => simp [isWritable] at hv

end ActionDispatch.Script
