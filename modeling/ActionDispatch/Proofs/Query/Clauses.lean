import Mathlib.Data.List.Forall2
import ActionDispatch.Proofs.Text.Runs
import ActionDispatch.Query.Select

/-!
# Reading clauses

A select text is read clause by clause. A keyword is found in any letter case, white space of any
length stands between words, and a word behind the model is the alias unless it has to be read as
the `WHERE` of the conditions.
-/

set_option autoImplicit false

namespace ActionDispatch.Query
open Text

def Keyword (word : String) (s : List Char) : Prop := s.map Char.toLower = word.toList

def Letters (word : String) (k : List Char) : Prop :=
  List.Forall₂ (fun letter c => isLetter letter c = true) word.toList k

structure Gap (s : List Char) : Prop where
  ne_nil : s ≠ []
  blanks : Blanks s

structure IsWord (s : List Char) : Prop where
  ne_nil : s ≠ []
  word : ∀ c ∈ s, isWordChar c = true

structure IsPath (s : List Char) : Prop where
  ne_nil : s ≠ []
  path : ∀ c ∈ s, isPathChar c = true

instance (s : List Char) : Decidable (Gap s) :=
  decidable_of_iff (s ≠ [] ∧ Blanks s) ⟨fun h => ⟨h.1, h.2⟩, fun h => ⟨h.ne_nil, h.blanks⟩⟩

instance (s : List Char) : Decidable (IsWord s) :=
  decidable_of_iff (s ≠ [] ∧ s.all isWordChar = true)
    ⟨fun h => ⟨h.1, List.all_eq_true.mp h.2⟩, fun h => ⟨h.ne_nil, List.all_eq_true.mpr h.word⟩⟩

instance (s : List Char) : Decidable (IsPath s) :=
  decidable_of_iff (s ≠ [] ∧ s.all isPathChar = true)
    ⟨fun h => ⟨h.1, List.all_eq_true.mp h.2⟩, fun h => ⟨h.ne_nil, List.all_eq_true.mpr h.path⟩⟩

theorem path_not_blank {c : Char} (hc : isPathChar c = true) : isBlank c = false := by
  rcases (Bool.or_eq_true _ _).mp hc with hword | hpoint
  · exact word_not_blank hword
  · obtain rfl : c = '.' := by simpa using hpoint
    rfl

theorem word_path {s : List Char} (hs : IsWord s) : IsPath s :=
  ⟨hs.ne_nil, fun c hc => by simp [isPathChar, hs.word c hc]⟩

theorem path_solid {s : List Char} (hs : IsPath s) : Solid s :=
  dense_solid hs.ne_nil fun c hc => path_not_blank (hs.path c hc)

theorem ends_cons {p : Char → Bool} {c : Char} {s : List Char} (hc : p c = false) :
    EndsRun p (c :: s) := by
  simp [EndsRun, hc]

theorem ends_append {p q : Char → Bool} (hpq : ∀ c, q c = true → p c = false) {t s : List Char}
    (ht : ∀ c ∈ t, q c = true) (hs : EndsRun p s) : EndsRun p (t ++ s) := by
  cases t with
  | nil => exact hs
  | cons c t => exact ends_cons (hpq c (ht c (by simp)))

theorem blank_not_path {c : Char} (hc : isBlank c = true) : isPathChar c = false := by
  have hpoint : c ≠ '.' := by
    rintro rfl
    cases hc
  simp [isPathChar, blank_not_word hc, hpoint]

theorem gap_ends {p : Char → Bool} (hp : ∀ c, isBlank c = true → p c = false) {g : List Char}
    (hg : Gap g) (s : List Char) : EndsRun p (g ++ s) := by
  obtain ⟨c, g, rfl⟩ := List.exists_cons_of_ne_nil hg.ne_nil
  exact ends_cons (hp c (hg.blanks c (by simp)))

theorem gap_ends_word {g : List Char} (hg : Gap g) (s : List Char) : EndsRun isWordChar (g ++ s) :=
  gap_ends (fun _ hc => blank_not_word hc) hg s

theorem gap_ends_path {g : List Char} (hg : Gap g) (s : List Char) : EndsRun isPathChar (g ++ s) :=
  gap_ends (fun _ hc => blank_not_path hc) hg s

theorem path_ends {s : List Char} (hs : IsPath s) (rest : List Char) :
    EndsRun isBlank (s ++ rest) := by
  obtain ⟨c, s, rfl⟩ := List.exists_cons_of_ne_nil hs.ne_nil
  exact ends_cons (path_not_blank (hs.path c (by simp)))

theorem keyword_letters {word : String} {k : List Char} (hk : Keyword word k) : Letters word k := by
  rw [Letters, ← show _ = word.toList from hk, List.forall₂_map_left_iff]
  exact List.forall₂_same.mpr fun c _ => by simp [isLetter]

theorem letters_read {word : String} {k : List Char} (hk : Letters word k) (s : List Char) :
    afterKeyword? word.toList (k ++ s) = some s := by
  rw [Letters] at hk
  generalize word.toList = letters at hk ⊢
  induction hk with
  | nil => cases s <;> rfl
  | cons hc _ ih => rw [List.cons_append, afterKeyword?, if_pos hc, ih]

theorem keyword_read {word : String} {k : List Char} (hk : Keyword word k) (s : List Char) :
    afterKeyword? word.toList (k ++ s) = some s :=
  letters_read (keyword_letters hk) s

theorem letter_not_blank {c : Char} (hc : c.toLower.isAlpha = true) : isBlank c = false :=
  class_not_blank (p := fun c => c.toLower.isAlpha) (by decide +kernel) hc

theorem of_letter {letter c : Char} (h : isLetter letter c = true) :
    c.toLower = letter ∨ c = 'ſ' := by
  simp only [isLetter, Bool.or_eq_true, decide_eq_true_eq, Bool.and_eq_true] at h
  exact h.imp_right (·.2)

theorem letters_ends {word : String} {k : List Char} (hk : Letters word k)
    (hw : word.toList.head?.any Char.isAlpha = true) (s : List Char) :
    EndsRun isBlank (k ++ s) := by
  rw [Letters] at hk
  generalize word.toList = letters at hk hw
  cases hk with
  | nil => cases hw
  | cons hc _ =>
    rcases of_letter hc with rfl | rfl
    · exact ends_cons (letter_not_blank hw)
    · exact ends_cons (by decide)

theorem keyword_ends {word : String} {k : List Char} (hk : Keyword word k)
    (hw : word.toList.head?.any Char.isAlpha = true) (s : List Char) : EndsRun isBlank (k ++ s) :=
  letters_ends (keyword_letters hk) hw s

theorem letter_word {c : Char} (hc : c.toLower.isAlpha = true) : isWordChar c = true := by
  have halpha : c.isAlpha = true := by
    unfold Char.toLower at hc
    split at hc
    next h => exact (Bool.or_eq_true _ _).mpr (.inl (decide_eq_true h))
    next => exact hc
  have hlt : c.toNat < 128 := by
    rcases (Bool.or_eq_true _ _).mp halpha with h | h
    · have hz := (of_decide_eq_true h).2
      exact Nat.lt_of_le_of_lt (UInt32.le_iff_toNat_le.mp hz) (by decide)
    · have hz := of_decide_eq_true ((Bool.and_eq_true _ _).mp h).2
      exact Nat.lt_of_le_of_lt (UInt32.le_iff_toNat_le.mp hz) (by decide)
  simp [isWordChar, hlt, Char.isAlphanum, halpha]

theorem keyword_word {word : String} {k : List Char} (hk : Keyword word k) (hne : word.toList ≠ [])
    (hw : word.toList.all Char.isAlpha = true) : IsWord k where
  ne_nil := by
    rintro rfl
    exact hne hk.symm
  word := by
    intro c hc
    rw [← show _ = word.toList from hk, List.all_map] at hw
    exact letter_word (List.all_eq_true.mp hw c hc)

theorem gap_read {g s : List Char} (hg : Gap g) (hs : EndsRun isBlank s) :
    afterBlank? (g ++ s) = some s := by
  obtain ⟨c, g, rfl⟩ := List.exists_cons_of_ne_nil hg.ne_nil
  have hc : isBlank c = true := hg.blanks c (by simp)
  have hrest : Blanks g := fun d hd => hg.blanks d (by simp [hd])
  simp [afterBlank?, hc, trimLeft_blanks hrest hs]

theorem spaced_keyword_read {word : String} (hw : word.toList.head?.any Char.isAlpha = true)
    {g k g' s : List Char} (hg : Gap g) (hk : Keyword word k) (hg' : Gap g')
    (hs : EndsRun isBlank s) : afterSpacedKeyword? word (g ++ k ++ g' ++ s) = some s := by
  rw [List.append_assoc, List.append_assoc, afterSpacedKeyword?, gap_read hg (keyword_ends hk hw _),
    Option.bind_some, keyword_read hk, Option.bind_some, gap_read hg' hs]

theorem path_read {p s : List Char} (hp : IsPath p) (hs : EndsRun isPathChar s) :
    pathWord? (p ++ s) = some (p, s) := by
  obtain ⟨htake, hdrop⟩ := run_split hp.path hs
  have hne : p.isEmpty = false := by simpa using hp.ne_nil
  simp [pathWord?, htake, hdrop, hne]

/-- Conditions behind `WHERE` are read up to the white space at the end of the text. -/
theorem where_read {g k g' body w : List Char} (hg : Gap g) (hk : Keyword "where" k) (hg' : Gap g')
    (hbody : Solid body) (hw : Blanks w) :
    whereClause? (g ++ k ++ g' ++ (body ++ w)) = some body := by
  have hends := solid_ends hbody w
  have hne : body.isEmpty = false := by simpa using hbody.ne_nil
  rw [List.append_assoc, List.append_assoc, whereClause?,
    gap_read hg (keyword_ends hk (by decide) _), Option.bind_some, keyword_read hk]
  simp [gap_read hg' hends, trimRight_blanks hw hbody.last, hne]

theorem ending_where {g k g' body w : List Char} (hg : Gap g) (hk : Keyword "where" k)
    (hg' : Gap g')
    (hbody : Solid body) (hw : Blanks w) :
    ending? (g ++ k ++ g' ++ (body ++ w)) = some (some body) := by
  rw [ending?, where_read hg hk hg' hbody hw]

theorem blank_skipped {w : List Char} (hw : Blanks w) :
    afterBlank? w = none ∨ afterBlank? w = some [] := by
  cases w with
  | nil => exact .inl rfl
  | cons c w =>
    have hrest : trimLeft w = [] := by
      simpa using trimLeft_blanks (s := []) (fun d hd => hw d (List.mem_cons_of_mem c hd)) rfl
    exact .inr (by simp [afterBlank?, hw c (by simp), hrest])

theorem ending_blank {w : List Char} (hw : Blanks w) : ending? w = some none := by
  have hnone : whereClause? w = none := by
    rcases blank_skipped hw with h | h <;> simp [whereClause?, h, afterKeyword?]
  have hblank : isBlankText w = true := List.all_eq_true.mpr hw
  simp [ending?, hnone, hblank]

theorem rowName_read {g a s : List Char} (hg : Gap g) (ha : IsWord a) (hs : EndsRun isWordChar s) :
    rowName? (g ++ (a ++ s)) = some (a, s) := by
  obtain ⟨htake, hdrop⟩ := run_split ha.word hs
  have hne : a.isEmpty = false := by simpa using ha.ne_nil
  simp [rowName?, gap_read hg (path_ends (word_path ha) s), htake, hdrop, hne]

theorem behind_alias {g a s : List Char} {e : Option (List Char)} (hg : Gap g) (ha : IsWord a)
    (hs : EndsRun isWordChar s) (he : ending? s = some e) :
    behindModel? (g ++ (a ++ s)) = some (some a, e) := by
  simp [behindModel?, rowName_read hg ha hs, he]

theorem behind_blank {w : List Char} (hw : Blanks w) : behindModel? w = some (none, none) := by
  have hnone : rowName? w = none := by
    rcases blank_skipped hw with h | h <;> simp [rowName?, h]
  simp [behindModel?, hnone, ending_blank hw]

/-- Without an alias the `WHERE` is tried as one, and given up where the conditions do not begin
with another `WHERE`. -/
theorem behind_where {g k g' body w : List Char} (hg : Gap g) (hk : Keyword "where" k)
    (hg' : Gap g')
    (hbody : Solid body) (hw : Blanks w) (hno : afterKeyword? "where".toList (body ++ w) = none) :
    behindModel? (g ++ k ++ g' ++ (body ++ w)) = some (none, some body) := by
  have hends := solid_ends hbody w
  have hname : rowName? (g ++ k ++ g' ++ (body ++ w)) = some (k, g' ++ (body ++ w)) := by
    simpa using rowName_read hg (keyword_word hk (by decide) (by decide))
      (gap_ends_word hg' (body ++ w))
  have hending : ending? (g' ++ (body ++ w)) = none := by
    have hblank : isBlankText (g' ++ (body ++ w)) = false := by
      obtain ⟨c, r, hc⟩ := List.exists_cons_of_ne_nil hbody.ne_nil
      have hfirst := hbody.first
      simp_all [EndsRun, isBlankText]
    simp only [ending?, whereClause?, gap_read hg' hends, Option.bind_some, hno, hblank]
    rfl
  simp only [behindModel?, hname, Option.bind_some, hending, Option.map_none,
    ending_where hg hk hg' hbody hw, Option.map_some]

variable {lead k g p g' k' g'' m s : List Char}

theorem clauses_front (hlead : Blanks lead) (hk : Letters "select" k) (hg : Gap g) (hp : IsPath p)
    (hs : EndsRun isPathChar s) :
    Clauses.parse? (lead ++ (k ++ (g ++ (p ++ s)))) = (do
      let rest ← afterSpacedKeyword? "from" s
      let (model, rest) ← pathWord? rest
      let (rowName, conditions) ← behindModel? rest
      some ⟨p, model, rowName, conditions⟩) := by
  have hselect : EndsRun isBlank (k ++ (g ++ (p ++ s))) := letters_ends hk (by decide) _
  rw [Clauses.parse?, trimLeft_blanks hlead hselect, letters_read hk, Option.bind_some,
    gap_read hg (path_ends hp s)]
  simp only [Option.bind_eq_bind, Option.bind_some, path_read hp hs]

theorem clauses_behind (hlead : Blanks lead) (hk : Letters "select" k) (hg : Gap g) (hp : IsPath p)
    (hg' : Gap g') (hk' : Keyword "from" k') (hg'' : Gap g'') (hm : IsPath m)
    (hs : EndsRun isPathChar s) :
    Clauses.parse? (lead ++ (k ++ (g ++ (p ++ (g' ++ k' ++ g'' ++ (m ++ s)))))) =
      (behindModel? s).map fun (rowName, conditions) => ⟨p, m, rowName, conditions⟩ := by
  have hprojection : EndsRun isPathChar (g' ++ k' ++ g'' ++ (m ++ s)) := by
    simpa using gap_ends_path hg' (k' ++ g'' ++ (m ++ s))
  have hfrom := spaced_keyword_read (by decide) hg' hk' hg'' (path_ends hm s)
  rw [clauses_front hlead hk hg hp hprojection, hfrom]
  simp only [Option.bind_eq_bind, Option.bind_some, path_read hm hs]
  cases behindModel? s <;> rfl

theorem clauses_read {a e : Option (List Char)} (hlead : Blanks lead) (hk : Keyword "select" k)
    (hg : Gap g) (hp : IsPath p) (hg' : Gap g') (hk' : Keyword "from" k') (hg'' : Gap g'')
    (hm : IsPath m)
    (hs : EndsRun isPathChar s) (hbehind : behindModel? s = some (a, e)) :
    Clauses.parse? (lead ++ (k ++ (g ++ (p ++ (g' ++ k' ++ g'' ++ (m ++ s)))))) =
      some ⟨p, m, a, e⟩ := by
  rw [clauses_behind hlead (keyword_letters hk) hg hp hg' hk' hg'' hm hs, hbehind]
  rfl

end ActionDispatch.Query
