import ActionDispatch.Proofs.Decimal.Whole
import ActionDispatch.Proofs.Script.Printing
import ActionDispatch.Proofs.Text.Cut

/-!
# Reading words

What the scanners of scripts make of a text whose next words are known. A mark is found where its
word comes next and nowhere else, and names, numbers and strings end where their words end, because
of what may stand behind an operand.
-/

set_option autoImplicit false

namespace ActionDispatch.Script
open Text

def isSolid : Word → Bool
  | [] => false
  | c :: _ => !isSpace c

/-- What a parser has in front of it: a text of words, each with a beginning of its own. -/
structure Ahead (ts : List Word) (s : List Char) : Prop where
  solid : ∀ t ∈ ts, isSolid t = true
  spelled : Spells ts s

theorem blank_skipped {w : List Char} (hw : Blank w) (s : List Char) :
    skipSpace (w ++ s) = skipSpace s :=
  List.dropWhile_append_of_pos hw

theorem solid_kept {t : Word} (ht : isSolid t = true) (s : List Char) :
    skipSpace (t ++ s) = t ++ s := by
  cases t with
  | nil => simp [isSolid] at ht
  | cons c t => simp_all [isSolid, skipSpace]

theorem skip_skipped (s : List Char) : skipSpace (skipSpace s) = skipSpace s := by
  induction s with
  | nil => rfl
  | cons c s ih => by_cases hc : isSpace c = true <;> simp_all [skipSpace]

theorem ahead_nil {s : List Char} (h : Ahead [] s) : skipSpace s = [] := by
  cases h.spelled with
  | nil hw => simpa [skipSpace] using blank_skipped hw []

theorem ahead_cons {t : Word} {ts : List Word} {s : List Char} (h : Ahead (t :: ts) s) :
    ∃ r, skipSpace s = t ++ r ∧ Ahead ts r := by
  have ht := h.solid t (by simp)
  cases h.spelled with
  | @cons w _ r _ hw hr =>
    refine ⟨r, ?_, fun u hu => h.solid u (by simp [hu]), hr⟩
    rw [List.append_assoc, blank_skipped hw, solid_kept ht]

theorem ahead_skip {ts : List Word} {s : List Char} (h : Ahead ts s) : Ahead ts (skipSpace s) := by
  have hblank : Blank [] := by simp [Blank]
  cases ts with
  | nil =>
    rw [ahead_nil h]
    exact ⟨by simp, .nil hblank⟩
  | cons t ts =>
    obtain ⟨r, hs, hr⟩ := ahead_cons h
    rw [hs]
    exact ⟨h.solid, .cons hblank hr.spelled⟩

theorem ahead_length {ts : List Word} {s : List Char} (h : Ahead ts s) : ts.length ≤ s.length := by
  obtain ⟨hs, hw⟩ := h
  induction hw with
  | nil => simp
  | @cons w t s ts hw _ ih =>
    have hts := ih fun u hu => hs u (by simp [hu])
    have ht : 0 < t.length := by
      have := hs t (by simp)
      cases t <;> simp_all [isSolid]
    simp only [List.length_cons, List.length_append]
    omega

/-- The first character ahead is white space or begins the first word. -/
theorem ahead_first {ts : List Word} {c : Char} {s : List Char} (h : Ahead ts (c :: s)) :
    isSpace c = true ∨ ∃ t us r, ts = (c :: t) :: us ∧ s = t ++ r ∧ Ahead us r := by
  by_cases hc : isSpace c = true
  · exact .inl hc
  right
  have hk : skipSpace (c :: s) = c :: s := by simp [skipSpace, hc]
  cases ts with
  | nil =>
    rw [ahead_nil h] at hk
    cases hk
  | cons t us =>
    have ht := h.solid t (by simp)
    obtain ⟨r, hs, hr⟩ := ahead_cons h
    cases t with
    | nil => simp [isSolid] at ht
    | cons d t =>
      rw [hk] at hs
      obtain ⟨rfl, rfl⟩ := List.cons.inj hs
      exact ⟨t, us, r, rfl, rfl, hr⟩

def clash : Word → Word → Bool
  | a :: as, b :: bs => a != b || clash as bs
  | _, _ => false

theorem after_clash {m t : Word} (h : clash m t = true) (s : List Char) :
    after? m (t ++ s) = none := by
  induction m generalizing t with
  | nil => simp [clash] at h
  | cons a m ih =>
    cases t with
    | nil => simp [clash] at h
    | cons b t =>
      by_cases hab : a = b
      · simp_all [clash, after?]
      · simp [after?, hab]

def bars (m : Word) : List Word → Bool
  | [] => !m.isEmpty
  | t :: _ => clash m t

theorem mark_found (mark : String) {t : Word} {ts : List Word} {s : List Char}
    (ht : mark.toList = t) (h : Ahead (t :: ts) s) :
    ∃ r, mark? mark s = some (skipSpace r) ∧ Ahead ts r := by
  obtain ⟨r, hs, hr⟩ := ahead_cons h
  exact ⟨r, by simp [mark?, hs, ht, after_self], hr⟩

theorem mark_missing (mark : String) {ts : List Word} {s : List Char}
    (hm : bars mark.toList ts = true) (h : Ahead ts s) : mark? mark s = none := by
  cases ts with
  | nil =>
    have hne : mark.toList ≠ [] := by simpa [bars] using hm
    cases hc : mark.toList with
    | nil => exact absurd hc hne
    | cons c m => simp [mark?, ahead_nil h, hc, after?]
  | cons t ts =>
    obtain ⟨r, hs, _⟩ := ahead_cons h
    simp [mark?, hs, after_clash hm]

def signs : List (Nat × Word) :=
  [(2, ['+']), (3, ['=', '=']), (3, ['!', '=']), (4, ['&', '&']), (5, ['|', '|']), (6, ['?', ':'])]

def stops (n : Nat) : List Word :=
  [[')'], [']'], [',']] ++ (signs.filter fun sign => n < sign.1).map Prod.snd

def Stopped (n : Nat) : List Word → Prop
  | [] => True
  | t :: _ => t ∈ stops n

inductive Behind : List Word → Prop where
  | stopped {ts : List Word} : Stopped 0 ts → Behind ts
  | position {ts : List Word} : Behind (['['] :: ts)
  | member {n : Word} {ts : List Word} (safe : Bool) : isName n = true →
      Behind (point safe :: n :: ts)

def limits : List Char := [')', ']', ',', '+', '=', '!', '&', '|', '?', '[', '.']

theorem stops_mono {m n : Nat} (h : m ≤ n) : ∀ t ∈ stops n, t ∈ stops m := by
  intro t ht
  simp only [stops, List.mem_append, List.mem_map, List.mem_filter, decide_eq_true_eq] at ht ⊢
  rcases ht with ht | ⟨sign, ⟨hs, hn⟩, rfl⟩
  · exact .inl ht
  · exact .inr ⟨sign, ⟨hs, by omega⟩, rfl⟩

theorem stopped_mono {m n : Nat} {ts : List Word} (h : m ≤ n) (hs : Stopped n ts) :
    Stopped m ts := by
  cases ts with
  | nil => trivial
  | cons t ts => exact stops_mono h t hs

theorem behind_limits {t : Word} {ts : List Word} (h : Behind (t :: ts)) :
    ∃ c u, t = c :: u ∧ c ∈ limits := by
  have hall : ∀ u ∈ stops 0, u.head?.all (limits.contains ·) = true ∧ u ≠ [] := by decide
  cases h with
  | stopped hs =>
    obtain ⟨hl, hne⟩ := hall t hs
    cases t with
    | nil => exact absurd rfl hne
    | cons c u => exact ⟨c, u, rfl, by simpa using hl⟩
  | position => exact ⟨_, _, rfl, by decide⟩
  | member safe _ => cases safe <;> exact ⟨_, _, rfl, by decide⟩

theorem space_holds (p : Char → Bool) (hp : [' ', '\t', '\r', '\n'].all p = true) {c : Char}
    (hc : isSpace c = true) : p c = true :=
  List.all_eq_true.mp hp c (by simpa [isSpace, or_assoc] using hc)

theorem ahead_head {p : Char → Bool} {ts : List Word} {s : List Char} (h : Ahead ts s)
    (hspace : [' ', '\t', '\r', '\n'].all p = true)
    (hword : ∀ t us, ts = t :: us → t.head?.all p = true) : s.head?.all p = true := by
  cases s with
  | nil => rfl
  | cons c s =>
    rcases ahead_first h with hc | ⟨t, us, r, rfl, _, _⟩
    · exact space_holds p hspace hc
    · exact hword (c :: t) us rfl

theorem behind_head {p : Char → Bool} {ts : List Word} {s : List Char} (hb : Behind ts)
    (h : Ahead ts s) (hp : ([' ', '\t', '\r', '\n'] ++ limits).all p = true) :
    s.head?.all p = true := by
  rw [List.all_append, Bool.and_eq_true] at hp
  refine ahead_head h hp.1 ?_
  rintro t us rfl
  obtain ⟨c, u, rfl, hc⟩ := behind_limits hb
  exact List.all_eq_true.mp hp.2 c hc

end ActionDispatch.Script
