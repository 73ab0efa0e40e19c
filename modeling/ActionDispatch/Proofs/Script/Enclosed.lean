import ActionDispatch.Proofs.Script.Carried

/-!
# Scripts in front of a parenthesis

A script that is accepted as a whole is read as the same tree, and counts with the same tokens,
where it stands in front of a closing parenthesis; white space at its ends does not matter.
-/

set_option autoImplicit false

namespace ActionDispatch.Script
open Text

variable {z s r rest t b v k : List Char} {levels : Nat} {e : Expr} {operand : Parser Expr}

theorem expression_skip (levels : Nat) (s : List Char) :
    expression levels (skipSpace s) = expression levels s := by
  have hover : ∀ negated nested : Parser Expr,
      unaryOver negated nested (skipSpace s) = unaryOver negated nested s := by
    intro negated nested
    simp only [unaryOver, postfixed, mark?, skip_skipped]
  have hunary : unary levels (skipSpace s) = unary levels s := by cases levels <;> exact hover _ _
  simp only [expression, binaries, chain, hunary]

def Starts (p : Parser Expr) : Prop :=
  ∀ s e rest, p s = .accept e rest → ∃ c r, skipSpace s = c :: r ∧ isBlank c = false

theorem chain_starts {joint? : JointParser} (h : Starts operand) :
    Starts (chain joint? operand) := by
  intro s e rest ha
  obtain ⟨left, q, hleft, -⟩ := andThen_accepts ha
  exact h _ _ _ hleft

theorem unaryOver_starts (negated nested : Parser Expr) : Starts (unaryOver negated nested) := by
  intro s e rest h
  unfold unaryOver at h
  split at h
  next q hm =>
    obtain ⟨q', hq', -⟩ := Option.map_eq_some_iff.mp hm
    exact ⟨'!', q', of_after hq', by decide⟩
  next =>
    obtain ⟨target, q, hprimary, -⟩ := andThen_accepts h
    exact primary_starts hprimary

theorem expression_starts (levels : Nat) : Starts (expression levels) := by
  have hunary : Starts (unary levels) := by cases levels <;> exact unaryOver_starts _ _
  exact chain_starts (chain_starts (chain_starts (chain_starts (chain_starts hunary))))

theorem parseWithin_accepts (h : parseWithin levels t = .ok e) :
    ∃ rest, expression levels (skipSpace t) = .accept e rest ∧ skipSpace rest = [] := by
  simp only [parseWithin] at h
  split at h
  next e' rest hread =>
    split at h
    next hend =>
      cases h
      exact ⟨rest, hread, hend⟩
    next => cases h
  next => cases h
  next => cases h

theorem accepted_starts (h : parseWithin levels t = .ok e) :
    ∃ c r, skipSpace t = c :: r ∧ isBlank c = false := by
  obtain ⟨rest, hread, -⟩ := parseWithin_accepts h
  have hstarts := expression_starts levels _ _ _ hread
  rwa [skip_skipped] at hstarts

/-- An accepted script, trimmed, has all of its characters but white space. -/
theorem accepted_trim (h : parseWithin levels t = .ok e) :
    Solid (trim t) ∧ ∃ v, Blanks v ∧ skipSpace t = trim t ++ v := by
  obtain ⟨c, r, hskip, hc⟩ := accepted_starts h
  have hsplit : t = t.takeWhile isSpace ++ skipSpace t := List.takeWhile_append_dropWhile.symm
  have hfront : Blanks (t.takeWhile isSpace) :=
    fun d hd => space_blank (List.mem_takeWhile_imp hd)
  have hink : isBlankText t = false := by
    rw [isBlankText, List.all_eq_false]
    exact ⟨c, by rw [hsplit, hskip]; simp, by simp [hc]⟩
  have hsolid := trim_solid hink
  obtain ⟨w, v, hw, hv, -, haround⟩ := blanks_around t
  refine ⟨hsolid, v, hv, ?_⟩
  have hleft : trimLeft t = skipSpace t := by
    conv_lhs => rw [hsplit]
    exact trimLeft_blanks hfront (by simp [EndsRun, hskip, hc])
  have hright : trimLeft t = trim t ++ v := by
    conv_lhs => rw [haround, List.append_assoc]
    exact trimLeft_blanks hw (solid_ends hsolid v)
  rw [← hleft, hright]

theorem twin_end (ht : Twin z rest r) (hend : skipSpace rest = []) : skipSpace r = ')' :: z := by
  obtain ⟨u, w, k, -, hk, rfl, rfl⟩ := ht
  have hu : Blank u := by
    intro c hc
    by_contra hno
    rw [skip_append, if_neg fun hblank => hno (hblank c hc)] at hend
    have hnil := (List.append_eq_nil_iff.mp hend).1
    exact hno (List.dropWhile_eq_nil_iff.mp hnil c hc)
  rw [skip_append, if_pos hu, tail_skip hk]

theorem enclosed_marks (h : parseWithin levels t = .ok e) (hb : skipSpace t = b ++ v)
    (hv : Blanks v)
    (hz : Apart z) (hk : Tail z k) : marks (b ++ k) = marks t ++ .closing :: marks z := by
  obtain ⟨-, hlexes, -⟩ := parseWithin_lexes h
  obtain ⟨r, hr, hend⟩ := lexes_twin hz (twin_tail hv hk b) (hb ▸ hlexes)
  have hclose : Lexes r [.closing] z := by
    have hspace := space_lexes r
    rw [twin_end hend rfl] at hspace
    exact hspace.trans (.mark counts_close .done)
  rw [lexes_marks (hr.trans hclose), List.append_assoc, List.singleton_append]

theorem spells_count {p : Char → Bool} (hp : [' ', '\t', '\r', '\n'].all (!p ·) = true)
    {ts : List Word} (h : Spells ts s) : s.countP p = ts.flatten.countP p := by
  have hblank : ∀ w, Blank w → w.countP p = 0 := by
    intro w hw
    rw [List.countP_eq_zero]
    intro c hc
    have hno := space_holds (!p ·) hp (hw c hc)
    simpa using hno
  induction h with
  | nil hw => exact hblank _ hw
  | cons hw _ ih => simp [hblank _ hw, ih]

def FewQuotes (ts : List Word) : Prop :=
  ts.flatten.count '"' < 3 ∧ ts.flatten.count '\'' < 3

instance (ts : List Word) : Decidable (FewQuotes ts) :=
  inferInstanceAs (Decidable (_ ∧ _))

theorem few_apart {ts : List Word} (hq : FewQuotes ts) (h : Ahead ts z) : Apart z := by
  intro q hquote
  have hspelled : z.count q = ts.flatten.count q := by
    rcases hquote with rfl | rfl <;> exact spells_count (by decide) h.spelled
  have hfew : ts.flatten.count q < 3 := by
    rcases hquote with rfl | rfl
    · exact hq.1
    · exact hq.2
  cases hc : cut? [q, q, q] z with
  | none => rfl
  | some found =>
    obtain ⟨before, after⟩ := found
    have hcount := congrArg (List.count q) (of_cut hc)
    simp only [List.count_append, List.count_cons_self, List.count_nil] at hcount
    omega

/-- An accepted script is read in front of a closing parenthesis, in any text that has its words
there. -/
theorem enclosed_accepted {allowed : Nat} {ts : List Word} (h : parseWithin levels t = .ok e)
    (hb : skipSpace t = b ++ v) (hv : Blanks v) (hq : FewQuotes ts)
    (hle : ink b + 1 + ink ts.flatten ≤ allowed) (ha : Ahead (b :: [')'] :: ts) s) :
    Accepts (expression allowed) e ([')'] :: ts) s := by
  obtain ⟨rest, hread, hend⟩ := parseWithin_accepts h
  obtain ⟨r, hs, hr⟩ := ahead_cons ha
  obtain ⟨z, hz, htail⟩ := ahead_cons hr
  have hk : Tail z r :=
    ⟨r.takeWhile isSpace, fun _ => List.mem_takeWhile_imp, by
      rw [← List.singleton_append, ← hz]
      exact List.takeWhile_append_dropWhile.symm⟩
  have hink : ink (b ++ r) ≤ allowed := by
    have hcount : ink r = ink ([')'] :: ts).flatten := spells_count (by decide) hr.spelled
    have hone : ink [')'] = 1 := rfl
    rw [List.flatten_cons, ink_append, hone] at hcount
    rw [ink_append]
    omega
  rw [hb] at hread
  obtain ⟨rest', hread', hrest, -⟩ := expression_carries (few_apart hq htail) levels allowed _ _ _ _
    (twin_tail hv hk b) hink hread (halts_end hend)
  have hblank : Blank [] := by simp [Blank]
  refine ⟨rest', by rw [← expression_skip, hs, hread'], ahead_unskip ?_⟩
  rw [twin_end hrest hend]
  exact ⟨hr.solid, .cons hblank htail.spelled⟩

end ActionDispatch.Script
