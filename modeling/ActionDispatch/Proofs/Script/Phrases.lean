import ActionDispatch.Proofs.Script.Levels

/-!
# Reading the parts of a tree

A tree is legible if the parser of its own level comes to it in front of whatever may follow there.
From legible parts: a part in parentheses, a part at another level, lists of parts between brackets,
and the suffixes of an operand.
-/

set_option autoImplicit false

namespace ActionDispatch.Script
open Text

def Expr.wordsWithin (e : Expr) (n : Nat) : List Word := enclose n e.looseness e.words

def Legible (e : Expr) : Prop :=
  ∀ levels ts s, e.words.length ≤ levels + 1 → Follows e.looseness ts → Ahead (e.words ++ ts) s →
    Arrives levels e.looseness e ts s

theorem looseness_le (e : Expr) : e.looseness ≤ 6 := by
  cases e with
  | binary op => cases op <;> simp [Expr.looseness, BinaryOp.looseness]
  | _ => simp [Expr.looseness]

theorem sign_looseness (op : BinaryOp) : 2 ≤ op.looseness ∧ op.looseness ≤ 5 := by
  cases op <;> decide

def opensOperand : Word → Bool
  | [] => false
  | c :: _ => c != '!' && !isSpace c

theorem opens_no_mark {t : Word} {ts : List Word} {s : List Char} (ht : opensOperand t = true)
    (h : Ahead (t :: ts) s) : mark? "!" s = none := by
  cases t with
  | nil => simp [opensOperand] at ht
  | cons c t =>
    have hc : c ≠ '!' := by
      rintro rfl
      simp [opensOperand] at ht
    exact mark_missing "!" (by simp [bars, clash, Ne.symm hc]) h

theorem name_opens {n : Word} (hn : isName n = true) : opensOperand n = true := by
  have hs := name_solid hn
  cases n with
  | nil => simp [isName] at hn
  | cons c n =>
    have hc : c ≠ '!' := by
      rintro rfl
      simp only [isName, Bool.and_eq_true] at hn
      exact absurd hn.1 (by decide)
    simp_all [opensOperand, isSolid]

theorem literal_opens {v : Value} (hv : isWritable v = true) :
    opensOperand (literalWord v) = true := by
  cases v with
  | null => decide
  | bool b => cases b <;> decide
  | int n =>
    obtain ⟨negative, ds, ht, hne, hd, _⟩ := Decimal.integer_text n
    have hw : literalWord (.int n) = (toString n.toInt).toList := rfl
    rw [hw, ht]
    cases negative with
    | true => rfl
    | false =>
      cases ds with
      | nil => exact absurd rfl hne
      | cons c ds =>
        have hc := hd c (by simp)
        have h1 : c ≠ '!' := by
          rintro rfl
          exact absurd hc (by decide)
        have h2 : isSpace c = false := by
          cases hs : isSpace c with
          | false => rfl
          | true =>
            have hno := space_holds (!Char.isDigit ·) (by decide) hs
            simp_all
        simp [opensOperand, h1, h2]
  | string s => rfl
  | float | list | map | query => simp [isWritable] at hv

def Opens (ts : List Word) : Prop := ∃ t us, ts = t :: us ∧ opensOperand t = true

theorem opens_append {ts : List Word} (h : Opens ts) (us : List Word) : Opens (ts ++ us) := by
  obtain ⟨t, vs, rfl, ht⟩ := h
  exact ⟨t, vs ++ us, rfl, ht⟩

theorem operand_opens (e : Expr) (he : e.writable = true) : Opens (e.wordsWithin 0) := by
  refine writable_induction (P := fun e => Opens (e.wordsWithin 0)) ⟨?literal, ?list, ?name,
    ?property, ?index, ?call, ?invoke, ?not, ?binary, ?elvis⟩ e he
  case literal => exact fun v hv => ⟨_, _, rfl, literal_opens hv⟩
  case list => exact fun items _ => ⟨_, _, rfl, by decide⟩
  case name => exact fun n hn => ⟨_, _, rfl, name_opens (Bool.and_eq_true_iff.mp hn).1⟩
  case property => exact fun target member safe _ _ ih => opens_append ih _
  case index => exact fun target position _ _ ih _ => opens_append (opens_append ih _) _
  case call => exact fun f args hf _ => ⟨_, _, rfl, name_opens (Bool.and_eq_true_iff.mp hf).1⟩
  case invoke => exact fun target method args safe _ _ _ ih => opens_append (opens_append ih _) _
  case not => exact fun operand _ _ => ⟨_, _, rfl, by decide⟩
  case binary =>
    intro op left right _ _ _ _
    cases op <;> exact ⟨_, _, rfl, by decide⟩
  case elvis => exact fun left right _ _ _ _ => ⟨_, _, rfl, by decide⟩

/-- An operand that is read up to words may be followed by suffixes. -/
theorem primary_arrives {levels : Nat} {e : Expr} {ts : List Word} {s r : List Char}
    (hp : primary (expression levels) (skipSpace s) = .accept e r) (hr : Ahead ts r) :
    Arrives levels 0 e ts s := by
  have hk := ahead_skip hr
  exact ⟨skipSpace r, (skipSpace r).length, by simp [atLevel, goOn, postfixed, hp, Reply.andThen],
    ahead_length hk, hk⟩

theorem closed_read {α : Type} (mark : String) {p : Parser α} {a : α} {t : Word} {ts : List Word}
    {s : List Char} (ht : mark.toList = t) (h : Accepts p a (t :: ts) s) :
    Accepts (fun s => (p s).closedBy (mark? mark)) a ts s := by
  obtain ⟨r, hp, hr⟩ := h
  obtain ⟨r', hm, hr'⟩ := mark_found mark ht hr
  exact ⟨skipSpace r', by simp [hp, hm, Reply.closedBy, Reply.andThen], ahead_skip hr'⟩

theorem words_positive (e : Expr) (he : e.writable = true) : 0 < e.words.length := by
  obtain ⟨t, ts, ht, _⟩ := operand_opens e he
  by_cases h : 0 < e.looseness
  · cases e with
    | not => simp [Expr.words]
    | binary op l r =>
      simp only [Expr.words, List.length_append, List.length_cons]
      omega
    | elvis l r =>
      simp only [Expr.words, List.length_append, List.length_cons]
      omega
    | _ => simp [Expr.looseness] at h
  · rw [Expr.wordsWithin, enclose, if_neg h] at ht
    simp [ht]

theorem within_positive (e : Expr) (he : e.writable = true) (n : Nat) :
    0 < (e.wordsWithin n).length := by
  have := words_positive e he
  unfold Expr.wordsWithin enclose
  split <;> simp_all

/-- A legible tree is come to at its own level and at all looser ones. -/
theorem own_arrives {e : Expr} {levels : Nat} {ts : List Word} {s : List Char} (hl : Legible e)
    (he : e.writable = true) (k : Nat) (hk : e.looseness + k ≤ 6)
    (hlen : e.words.length ≤ levels + 1) (hf : Follows (e.looseness + k) ts)
    (h : Ahead (e.words ++ ts) s) : Arrives levels (e.looseness + k) e ts s := by
  have hno : e.looseness = 0 → mark? "!" s = none := by
    intro h0
    obtain ⟨t, us, ht, ho⟩ := operand_opens e he
    have hw : e.words = t :: us := by rwa [Expr.wordsWithin, h0] at ht
    rw [hw] at h
    exact opens_no_mark ho h
  exact climb hno (fun hf => hl levels ts s hlen hf h) k hk hf

/-- A legible tree is read as a whole where only an end may follow. -/
theorem whole_read {e : Expr} {levels : Nat} {ts : List Word} {s : List Char} (hl : Legible e)
    (he : e.writable = true) (hlen : e.words.length ≤ levels) (hs : Stopped 6 ts)
    (h : Ahead (e.words ++ ts) s) : Accepts (expression levels) e ts s := by
  have hpos := words_positive e he
  have hle := looseness_le e
  obtain ⟨j, rfl⟩ : ∃ j, levels = j + 1 := ⟨levels - 1, by omega⟩
  obtain ⟨k, hk⟩ : ∃ k, e.looseness + k = 6 := ⟨6 - e.looseness, by omega⟩
  have harr := own_arrives hl he k (by omega) hlen (hk ▸ follows_stopped hs) h
  rw [hk] at harr
  rw [expression_outermost]
  exact arrives_accepts (Nat.le_refl 6) hs harr

theorem enclosed_arrives {e : Expr} {levels : Nat} {ts : List Word} {s : List Char} (hl : Legible e)
    (he : e.writable = true) (hlen : e.words.length + 2 ≤ levels + 1)
    (h : Ahead ((['('] :: e.words ++ [[')']]) ++ ts) s) : Arrives levels 0 e ts s := by
  have hsplit : (['('] :: e.words ++ [[')']]) ++ ts = ['('] :: (e.words ++ [')'] :: ts) := by simp
  rw [hsplit] at h
  obtain ⟨r, hs, hr⟩ := ahead_cons h
  have hstop : Stopped 6 ([')'] :: ts) := by
    show [')'] ∈ stops 6
    decide
  have hw : Accepts (expression levels) e ([')'] :: ts) (skipSpace r) :=
    whole_read hl he (by omega) hstop (ahead_skip hr)
  obtain ⟨r', hp, hr'⟩ := closed_read ")" rfl hw
  refine primary_arrives (r := r') ?_ hr'
  rw [hs]
  simpa [primary] using hp

/-- A legible tree is come to at any level, in parentheses where it has to be. -/
theorem within_arrives {e : Expr} {levels n : Nat} {ts : List Word} {s : List Char} (hl : Legible e)
    (he : e.writable = true) (hn : n ≤ 6) (hlen : (e.wordsWithin n).length ≤ levels + 1)
    (hf : Follows n ts) (h : Ahead (e.wordsWithin n ++ ts) s) : Arrives levels n e ts s := by
  by_cases hin : n < e.looseness
  · have hw : e.wordsWithin n = ['('] :: e.words ++ [[')']] := if_pos hin
    rw [hw] at h hlen
    have hno : mark? "!" s = none := opens_no_mark (t := ['(']) (by decide) h
    have hlen : e.words.length + 2 ≤ levels + 1 := by simpa using hlen
    simpa using climb (m := 0) (fun _ => hno) (fun _ => enclosed_arrives hl he hlen h) n
      (by omega) (by simpa using hf)
  · have hw : e.wordsWithin n = e.words := if_neg hin
    rw [hw] at h hlen
    obtain ⟨k, rfl⟩ : ∃ k, n = e.looseness + k := ⟨n - e.looseness, by omega⟩
    exact own_arrives hl he k hn hlen hf h

end ActionDispatch.Script
