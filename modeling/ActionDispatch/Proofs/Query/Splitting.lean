import Mathlib.Data.List.Infix
import ActionDispatch.Proofs.Query.Conditions

/-!
# Splitting conditions

A text of conditions is split at each `AND` between white space, whatever stands around it. What is
left between the separators holds none of them, and a text without one is never broken up.
-/

set_option autoImplicit false

namespace ActionDispatch.Query
open Text

theorem blanks_takeWhile (s : List Char) : Blanks (s.takeWhile isBlank) :=
  fun _ => List.mem_takeWhile_imp

theorem of_afterBlank {s rest : List Char} (h : afterBlank? s = some rest) :
    ∃ g, Gap g ∧ EndsRun isBlank rest ∧ s = g ++ rest := by
  cases s with
  | nil => cases h
  | cons c s =>
    rw [afterBlank?] at h
    split at h
    next hc =>
      obtain rfl := Option.some.inj h
      refine ⟨c :: s.takeWhile isBlank, ⟨by simp, ?_⟩, endsRun_dropWhile isBlank s, ?_⟩
      · exact List.forall_mem_cons.mpr ⟨hc, blanks_takeWhile s⟩
      · simp [trimLeft]
    next => cases h

theorem of_afterKeyword {word s rest : List Char} (h : afterKeyword? word s = some rest) :
    ∃ k, List.Forall₂ (fun letter c => isLetter letter c = true) word k ∧ s = k ++ rest := by
  fun_induction afterKeyword? word s with
  | case1 s => exact ⟨[], .nil, Option.some.inj h⟩
  | case2 => cases h
  | case3 letter word c s hc ih =>
    obtain ⟨k, hk, rfl⟩ := ih h
    exact ⟨c :: k, .cons hc hk, rfl⟩
  | case4 => cases h

/-- Only an s can be spelled in another way than by its two cases. -/
theorem keyword_of_letters {word : String} (hs : 's' ∉ word.toList) {k : List Char}
    (hk : List.Forall₂ (fun letter c => isLetter letter c = true) word.toList k) :
    Keyword word k := by
  rw [Keyword]
  generalize word.toList = letters at hs hk ⊢
  induction hk with
  | nil => rfl
  | @cons letter c letters k hc _ ih =>
    simp only [List.mem_cons, not_or] at hs
    have hlower : c.toLower = letter := by simpa [isLetter, Ne.symm hs.1] using hc
    rw [List.map_cons, hlower, ih hs.2]

theorem of_afterSpacedKeyword {word : String} (hs : 's' ∉ word.toList) {s rest : List Char}
    (h : afterSpacedKeyword? word s = some rest) :
    ∃ g k g', Gap g ∧ Keyword word k ∧ Gap g' ∧ EndsRun isBlank rest ∧
      s = g ++ k ++ g' ++ rest := by
  obtain ⟨behind, hbehind, hlast⟩ := Option.bind_eq_some_iff.mp h
  obtain ⟨spelled, hfirst, hword⟩ := Option.bind_eq_some_iff.mp hbehind
  obtain ⟨g, hg, -, rfl⟩ := of_afterBlank hfirst
  obtain ⟨k, hk, rfl⟩ := of_afterKeyword hword
  obtain ⟨g', hg', hrest, rfl⟩ := of_afterBlank hlast
  exact ⟨g, k, g', hg, keyword_of_letters hs hk, hg', hrest, by simp⟩

inductive Separator : List Char → Prop
  | intro {g k g' : List Char} (hg : Gap g) (hk : Keyword "and" k) (hg' : Gap g') :
      Separator (g ++ k ++ g')

def HoldsAnd (s : List Char) : Prop := ∃ t, Separator t ∧ t <:+: s

theorem HoldsAnd.mono {s t : List Char} (h : HoldsAnd s) (hst : s <:+: t) : HoldsAnd t := by
  obtain ⟨separator, hsep, hin⟩ := h
  exact ⟨separator, hsep, hin.trans hst⟩

theorem separator_ne_nil {t : List Char} (h : Separator t) : t ≠ [] := by
  obtain ⟨hg, -, -⟩ := h
  simp [hg.ne_nil]

theorem separator_chars {t : List Char} (h : Separator t) {c : Char} (hc : c ∈ t) :
    isBlank c = true ∨ c.toLower ∈ "and".toList := by
  obtain ⟨hg, hk, hg'⟩ := h
  simp only [List.mem_append] at hc
  obtain (hc | hc) | hc := hc
  · exact .inl (hg.blanks c hc)
  · refine .inr ?_
    rw [← show _ = "and".toList from hk]
    exact List.mem_map_of_mem hc
  · exact .inl (hg'.blanks c hc)

theorem of_afterAnd {s rest : List Char} (h : afterSpacedKeyword? "and" s = some rest) :
    ∃ t, Separator t ∧ EndsRun isBlank rest ∧ s = t ++ rest := by
  obtain ⟨g, k, g', hg, hk, hg', hrest, rfl⟩ := of_afterSpacedKeyword (by decide) h
  exact ⟨_, .intro hg hk hg', hrest, rfl⟩

theorem afterAnd_found {t : List Char} (h : Separator t) (s : List Char) :
    afterSpacedKeyword? "and" (t ++ s) = some (trimLeft s) := by
  cases h with
  | @intro g k g' hg hk hg' =>
    have hblanks : ∀ c ∈ g' ++ s.takeWhile isBlank, isBlank c = true := fun c hc =>
      (List.mem_append.mp hc).elim (hg'.blanks c) (blanks_takeWhile s c)
    have hgap : Gap (g' ++ s.takeWhile isBlank) := ⟨by simp [hg'.ne_nil], hblanks⟩
    have hs : g ++ k ++ g' ++ s = g ++ k ++ (g' ++ s.takeWhile isBlank) ++ trimLeft s := by
      simp [trimLeft, List.takeWhile_append_dropWhile]
    rw [hs]
    exact spaced_keyword_read (by decide) hg hk hgap (endsRun_dropWhile isBlank s)

theorem holdsAnd_iff (s : List Char) :
    HoldsAnd s ↔ ∃ t ∈ s.tails, (afterSpacedKeyword? "and" t).isSome = true := by
  simp only [List.mem_tails]
  constructor
  · rintro ⟨t, ht, before, after, rfl⟩
    exact ⟨t ++ after, ⟨before, by simp⟩, by rw [afterAnd_found ht]; rfl⟩
  · rintro ⟨t, ⟨before, rfl⟩, hfound⟩
    obtain ⟨rest, hrest⟩ := Option.isSome_iff_exists.mp hfound
    obtain ⟨separator, hsep, -, rfl⟩ := of_afterAnd hrest
    exact ⟨separator, hsep, before, rest, by simp⟩

instance : DecidablePred HoldsAnd := fun s => decidable_of_iff _ (holdsAnd_iff s).symm

inductive Joined : List (List Char) → List Char → Prop
  | one (p : List Char) : Joined [p] p
  | cons {t s : List Char} {ps : List (List Char)} (p : List Char) (ht : Separator t)
      (hs : Joined ps s) : Joined (p :: ps) (p ++ (t ++ s))

theorem Joined.extendFirst {ps : List (List Char)} {s : List Char} (h : Joined ps s) (c : Char) :
    Joined (Query.extendFirst c ps) (c :: s) := by
  cases h with
  | one => exact .one (c :: s)
  | cons p ht hs => exact .cons (c :: p) ht hs

theorem conjuncts_found {s rest : List Char} (h : afterSpacedKeyword? "and" s = some rest) :
    conjuncts s = [] :: conjuncts rest := by
  cases s with
  | nil => cases h
  | cons c s =>
    rw [conjuncts]
    split
    next found hfound =>
      rw [h] at hfound
      rw [Option.some.inj hfound]
    next hnone => rw [h] at hnone; cases hnone

/-- The parts of a text make it up again. -/
theorem conjuncts_joined (s : List Char) : Joined (conjuncts s) s := by
  fun_induction conjuncts s with
  | case1 => exact .one []
  | case2 c s rest h ih =>
    obtain ⟨t, ht, -, heq⟩ := of_afterAnd h
    rw [heq]
    exact .cons [] ht ih
  | case3 c s h ih => exact ih.extendFirst c

/-- A text without a separator is one part. -/
theorem conjuncts_free {s : List Char} (hs : ¬HoldsAnd s) : conjuncts s = [s] := by
  have hjoined := conjuncts_joined s
  generalize conjuncts s = ps at hjoined
  cases hjoined with
  | one => rfl
  | cons p ht hrest => exact absurd ⟨_, ht, List.infix_append' p _ _⟩ hs

/-- A text without a separator is not broken up in front of a character that no separator has. -/
theorem conjuncts_whole {c : Char} (hblank : isBlank c = false) (hletter : c.toLower ∉ "and".toList)
    {s rest p : List Char} {ps : List (List Char)} (hs : ¬HoldsAnd s)
    (hrest : conjuncts (c :: rest) = p :: ps) : conjuncts (s ++ c :: rest) = (s ++ p) :: ps := by
  induction s with
  | nil => exact hrest
  | cons d s ih =>
    have hno : afterSpacedKeyword? "and" (d :: (s ++ c :: rest)) = none := by
      refine Option.eq_none_iff_forall_ne_some.mpr fun behind hbehind => ?_
      obtain ⟨t, ht, -, heq⟩ := of_afterAnd hbehind
      have hout : c ∉ t := by
        intro hc
        obtain hc | hc := separator_chars ht hc
        · rw [hblank] at hc
          cases hc
        · exact hletter hc
      obtain ⟨more, rfl, hmore⟩ | ⟨more, hmore, -⟩ :=
        List.append_eq_append_iff.mp (show (d :: s) ++ c :: rest = t ++ behind from heq)
      · cases more with
        | nil => exact hs ⟨_, ht, by simp⟩
        | cons e more =>
          obtain ⟨rfl, -⟩ := List.cons.inj hmore
          simp at hout
      · exact hs ⟨t, ht, [], more, hmore.symm⟩
    exact conjuncts_step hno (ih fun h => hs (h.mono (List.suffix_cons d s).isInfix))

/-- A text with a separator is broken up, and not behind its end. -/
theorem conjuncts_broken {s : List Char} (hs : HoldsAnd s) (rest : List Char) :
    ∃ p ps, p <+: s ∧ conjuncts (s ++ rest) = p :: ps := by
  induction s with
  | nil =>
    obtain ⟨t, ht, hin⟩ := hs
    exact absurd (List.infix_nil.mp hin) (separator_ne_nil ht)
  | cons c s ih =>
    cases hand : afterSpacedKeyword? "and" (c :: s ++ rest) with
    | some behind => exact ⟨[], _, List.nil_prefix, conjuncts_found hand⟩
    | none =>
      have hs' : HoldsAnd s := by
        obtain ⟨t, ht, hin⟩ := hs
        obtain ⟨more, hmore⟩ | hin := List.infix_cons_iff.mp hin
        · rw [← hmore, List.append_assoc, afterAnd_found ht] at hand
          cases hand
        · exact ⟨t, ht, hin⟩
      obtain ⟨p, ps, hp, hps⟩ := ih hs'
      exact ⟨c :: p, ps, List.cons_prefix_cons.mpr ⟨rfl, hp⟩, conjuncts_step hand hps⟩

end ActionDispatch.Query
