import ActionDispatch.Proofs.Handler.Stores
import ActionDispatch.Proofs.Query.Acceptance

/-!
# Normalised queries

A query is trimmed before it is read, and `SELECT` is put in front of it unless it is there.
Trimming changes nothing in an accepted text. The keyword is looked for in ASCII letters and with a
space behind it; a text is accepted with other white space as well, and with a long s. Then the
keyword is put in front once more and what was accepted is refused.
-/

set_option autoImplicit false

namespace ActionDispatch.Query
open Text

variable {s lead k g p g' k' g'' m rest rowName : List Char} {name found : Option (List Char)}
  {cs : List Condition}

theorem ending_parts (h : ending? s = some found) (hread : readConditions rowName found = .ok cs) :
    found = none ∧ Blanks s ∨
      ∃ g k g' body w, found = some body ∧ Gap g ∧ Keyword "where" k ∧ Gap g' ∧
        Solid body ∧ Blanks w ∧ s = g ++ k ++ g' ++ (body ++ w) := by
  unfold ending? at h
  split at h
  next body hbody =>
    obtain rfl := Option.some.inj h
    have hink : isBlankText body = false := by
      rw [← Bool.not_eq_true, isBlankText, List.all_eq_true]
      intro hblank
      rw [readConditions, blank_conditions hblank] at hread
      cases hread
    obtain ⟨g, k, g', w, hg, hk, hg', hw, htrim, hs⟩ | hblank := of_whereClause hbody
    · exact .inr ⟨g, k, g', body, w, rfl, hg, hk, hg', htrim ▸ trim_solid hink, hw, hs⟩
    · rw [isBlankText, List.all_eq_true.mpr hblank] at hink
      cases hink
  next =>
    split at h
    next hblank =>
      obtain rfl := Option.some.inj h
      exact .inl ⟨rfl, List.all_eq_true.mp hblank⟩
    next => cases h

theorem ending_trimmed (h : ending? s = some found)
    (hread : readConditions rowName found = .ok cs) :
    ending? (trimRight s) = some found ∧ EndsRun isWordChar (trimRight s) := by
  obtain ⟨rfl, hblank⟩ | ⟨g, k, g', body, w, rfl, hg, hk, hg', hbody, hw, rfl⟩ :=
    ending_parts h hread
  · rw [trimRight_blank hblank]
    exact ⟨rfl, rfl⟩
  · have hwhere := ending_where (w := []) hg hk hg' hbody (by decide)
    rw [List.append_nil] at hwhere
    rw [← List.append_assoc, trimRight_blanks hw (solid_last hbody _)]
    refine ⟨hwhere, ?_⟩
    simpa using gap_ends_word hg (k ++ g' ++ body)

theorem no_where {c : Char} (hc : isLetter 'w' c = false) (s : List Char) :
    afterKeyword? "where".toList (c :: s) = none := by
  have hword : "where".toList = ['w', 'h', 'e', 'r', 'e'] := by decide
  rw [hword, afterKeyword?, hc]
  rfl

/-- Conditions on rows named `self` do not begin with `WHERE`. -/
theorem self_no_where {P : Operand → List Char → Prop} (h : ConjunctionForm P defaultName cs s)
    (rest : List Char) : afterKeyword? "where".toList (s ++ rest) = none := by
  have hself : ∀ (w r : List Char), Blanks w →
      afterKeyword? "where".toList (w ++ (defaultName ++ r)) = none := by
    intro w r hw
    cases w with
    | nil => rfl
    | cons c w =>
      have hc : isLetter 'w' c = false := by
        rw [Bool.eq_false_iff]
        intro hletter
        have hblank := hw c List.mem_cons_self
        rcases of_letter hletter with hlower | rfl
        · rw [letter_not_blank (by rw [hlower]; rfl)] at hblank
          cases hblank
        · exact absurd hblank (by decide)
      exact no_where hc _
  have hcondition : ∀ {c : Condition} {s : List Char}, c.Form P defaultName s →
      ∃ w r, Blanks w ∧ s = w ++ (defaultName ++ r) := by
    rintro _ _ ⟨negated, hw, -, -, -, -, -⟩
    exact ⟨_, _, hw, rfl⟩
  cases h with
  | one hc =>
    obtain ⟨w, r, hw, rfl⟩ := hcondition hc
    simpa using hself w (r ++ rest) hw
  | @cons c cs s t s' hc =>
    obtain ⟨w, r, hw, rfl⟩ := hcondition hc
    simpa using hself w (r ++ (t ++ (s' ++ rest))) hw

/-- What is read behind the model of an accepted text is read without the white space at the end. -/
theorem behind_trimmed (h : behindModel? s = some (name, found))
    (hread : readConditions (name.getD defaultName) found = .ok cs) :
    behindModel? (trimRight s) = some (name, found) := by
  obtain ⟨word, g, rest, rfl, hg, hword, rfl, he⟩ | ⟨rfl, he⟩ := of_behind h
  · obtain ⟨hending, hends⟩ := ending_trimmed he hread
    have hlast := solid_last (path_solid (word_path hword)) g
    rw [← List.append_assoc, trimRight_behind hlast, List.append_assoc]
    exact behind_alias hg hword hends hending
  · obtain ⟨rfl, hblank⟩ | ⟨g, k, g', body, w, rfl, hg, hk, hg', hbody, hw, rfl⟩ :=
      ending_parts he hread
    · rw [trimRight_blank hblank]
      rfl
    · have hform := conditions_reads defaultName body
      obtain ⟨cs', -, hform⟩ | ⟨reason, hbad⟩ := hform
      · have hno := self_no_where hform []
        rw [solid_trim hbody] at hno
        have hwhere := behind_where (w := []) hg hk hg' hbody (by decide) hno
        rw [List.append_nil] at hwhere
        rwa [← List.append_assoc, trimRight_blanks hw (solid_last hbody _)]
      · have hread : Condition.parseAll defaultName body = .ok cs := hread
        rw [hbad] at hread
        cases hread

structure Opening where
  lead : List Char
  selectWord : List Char
  gap : List Char
  projection : List Char
  gap' : List Char
  fromWord : List Char
  gap'' : List Char
  model : List Char
  blanks : Blanks lead
  letters : Letters "select" selectWord
  apart : Gap gap
  path : IsPath projection
  apart' : Gap gap'
  keyword : Keyword "from" fromWord
  apart'' : Gap gap''
  named : IsPath model

def Opening.text (o : Opening) (rest : List Char) : List Char :=
  o.lead ++ (o.selectWord ++ (o.gap ++ (o.projection ++
    (o.gap' ++ o.fromWord ++ o.gap'' ++ (o.model ++ rest)))))

def Opening.trimmed (o : Opening) : Opening :=
  { o with lead := [], blanks := by simp [Blanks] }

theorem letters_word (hk : Letters "select" k) : IsWord k := by
  have hletters : ∀ letter ∈ "select".toList, letter.isAlpha = true :=
    List.all_eq_true.mp (by decide)
  rw [Letters] at hk
  refine ⟨?_, ?_⟩
  · rintro rfl
    cases hk
  · generalize "select".toList = letters at hk hletters
    induction hk with
    | nil => simp
    | cons hc _ ih =>
      obtain ⟨hletter, hrest⟩ := List.forall_mem_cons.mp hletters
      refine List.forall_mem_cons.mpr ⟨?_, ih hrest⟩
      rcases of_letter hc with rfl | rfl
      · exact letter_word hletter
      · decide

theorem ending_ends {p : Char → Bool} (hp : ∀ c, isBlank c = true → p c = false)
    (h : ending? s = some found) : EndsRun p s := by
  cases s with
  | nil => rfl
  | cons c s =>
    refine ends_cons (hp c ?_)
    unfold ending? at h
    split at h
    next body hbody =>
      cases hblank : afterBlank? (c :: s) with
      | none => simp [whereClause?, hblank] at hbody
      | some rest =>
        rw [afterBlank?] at hblank
        split at hblank
        next hc => exact hc
        next => cases hblank
    next =>
      split at h
      next hblank => exact List.all_eq_true.mp hblank c List.mem_cons_self
      next => cases h

theorem behind_ends (h : behindModel? s = some (name, found)) : EndsRun isPathChar s := by
  obtain ⟨word, g, rest, -, hg, -, rfl, -⟩ | ⟨-, he⟩ := of_behind h
  · exact gap_ends_path hg _
  · exact ending_ends (fun c hc => blank_not_path hc) he

theorem opening_clauses (o : Opening) (hs : EndsRun isPathChar s) :
    Clauses.parse? (o.text s) =
      (behindModel? s).map fun (rowName, conditions) =>
        ⟨o.projection, o.model, rowName, conditions⟩ :=
  clauses_behind o.blanks o.letters o.apart o.path o.apart' o.keyword o.apart'' o.named hs

theorem of_accepted {text : String} {q : Select} (h : Select.parse text = .ok q) :
    ∃ (o : Opening) (rest : List Char) (name found : Option (List Char)) (path : List String)
      (cs : List Condition), text.toList = o.text rest ∧ behindModel? rest = some (name, found) ∧
      projectionPath? (name.getD defaultName) o.projection = some path ∧
      readConditions (name.getD defaultName) found = .ok cs ∧
        q = ⟨String.ofList o.model, path, cs⟩ := by
  rw [Select.parse_eq] at h
  split at h
  next => cases h
  next p m name found hclauses =>
    obtain ⟨hp, hm, lead, k, g, g', k', g'', rest, hlead, hk, hg, hg', hk', hg'', hbehind, htext⟩ :=
      of_clauses hclauses
    split at h
    next => cases h
    next path hpath =>
      cases hread : readConditions (name.getD defaultName) found with
      | error e =>
        rw [hread] at h
        cases h
      | ok cs =>
        rw [hread] at h
        cases h
        exact ⟨⟨lead, k, g, p, g', k', g'', m, hlead, hk, hg, hp, hg', hk', hg'', hm⟩, rest,
          name, found, path, cs, htext, hbehind, hpath, hread, rfl⟩

theorem opening_accepted (o : Opening) {path : List String}
    (hbehind : behindModel? rest = some (name, found))
    (hpath : projectionPath? (name.getD defaultName) o.projection = some path)
    (hread : readConditions (name.getD defaultName) found = .ok cs) :
    Select.parse (String.ofList (o.text rest)) = .ok ⟨String.ofList o.model, path, cs⟩ := by
  rw [Select.parse_eq, String.toList_ofList, opening_clauses o (behind_ends hbehind), hbehind]
  simp only [Option.map_some, hpath, hread, Except.map]

theorem trimmed_front (o : Opening) (rest : List Char) :
    ∃ t, o.trimmed.text rest = o.selectWord ++ (o.gap ++ (o.projection ++ (o.gap' ++ t))) := by
  refine ⟨o.fromWord ++ (o.gap'' ++ (o.model ++ rest)), ?_⟩
  simp [Opening.text, Opening.trimmed]

theorem text_trimLeft (o : Opening) (rest : List Char) :
    trimLeft (o.text rest) = o.trimmed.text rest :=
  trimLeft_blanks o.blanks (letters_ends o.letters (by decide) _)

theorem opening_trimmed (o : Opening) (rest : List Char) :
    trim (o.text rest) = o.trimmed.text (trimRight rest) := by
  have hfirst : EndsRun isBlank (o.trimmed.text rest) := letters_ends o.letters (by decide) _
  have hlast := solid_last (path_solid o.named)
    (o.selectWord ++ (o.gap ++ (o.projection ++ (o.gap' ++ o.fromWord ++ o.gap''))))
  have htrim := trimRight_behind hlast rest
  rw [← trim_trimLeft, text_trimLeft, trim_ends hfirst]
  simpa [Opening.text, Opening.trimmed] using htrim

theorem select_trimmed {text : String} {q : Select} (h : Select.parse text = .ok q) :
    Select.parse (strip text) = .ok q := by
  obtain ⟨o, rest, name, found, path, cs, htext, hbehind, hpath, hread, rfl⟩ := of_accepted h
  rw [strip, htext, opening_trimmed]
  exact opening_accepted o.trimmed (behind_trimmed hbehind hread) hpath hread

def Spaced (s : List Char) : Prop :=
  ∃ lead k rest, Blanks lead ∧ Keyword "select" k ∧ s = lead ++ (k ++ ' ' :: rest)

theorem lower_space {c : Char} (h : c.toLower = ' ') : c = ' ' := by
  unfold Char.toLower at h
  split at h
  next hupper =>
    have hval : (c.val.toNat + 32) % 2 ^ 32 = 32 := by simpa using congrArg (·.val.toNat) h
    have hlow : 65 ≤ c.val.toNat := UInt32.le_iff_toNat_le.mp hupper.1
    have hhigh : c.val.toNat ≤ 90 := UInt32.le_iff_toNat_le.mp hupper.2
    omega
  next => exact h

theorem startsWithSelect_iff :
    startsWithSelect s = true ↔ ∃ k rest, Keyword "select" k ∧ s = k ++ ' ' :: rest := by
  have hwords : "select ".toList = "select".toList ++ [' '] := by decide
  rw [startsWithSelect, List.isPrefixOf_iff_prefix, hwords]
  constructor
  · rintro ⟨t, ht⟩
    obtain ⟨front, rest, rfl, hfront, -⟩ := List.append_eq_map_iff.mp ht
    obtain ⟨k, space, rfl, hk, hspace⟩ := List.append_eq_map_iff.mp hfront.symm
    obtain ⟨c, rfl, hc⟩ := List.map_eq_singleton_iff.mp hspace
    exact ⟨k, rest, hk, by simp [lower_space hc]⟩
  · rintro ⟨k, rest, hk, rfl⟩
    refine ⟨rest.map Char.toLower, ?_⟩
    rw [List.map_append, show k.map Char.toLower = _ from hk]
    simp

theorem letters_length {word : String} (hk : Letters word k) : k.length = word.toList.length :=
  hk.length_eq.symm

/-- The keyword is found in a trimmed text just where it stands in front of a space. -/
theorem spaced_iff (o : Opening) (rest : List Char) :
    Spaced (o.text rest) ↔ startsWithSelect (trim (o.text rest)) = true := by
  rw [startsWithSelect_iff]
  constructor
  · rintro ⟨lead, k, behind, hlead, hk, htext⟩
    obtain ⟨t, ht⟩ := trimmed_front o rest
    have hfront : o.selectWord ++ (o.gap ++ (o.projection ++ (o.gap' ++ t))) =
        k ++ ' ' :: behind := by
      have hleft := congrArg trimLeft htext
      rw [text_trimLeft, trimLeft_blanks hlead (keyword_ends hk (by decide) _)] at hleft
      rw [← ht, hleft]
    have hlength : o.selectWord.length = k.length := by
      rw [letters_length o.letters, letters_length (keyword_letters hk)]
    obtain ⟨hword, hgap⟩ := List.append_inj hfront hlength
    obtain ⟨c, g, hg⟩ := List.exists_cons_of_ne_nil o.apart.ne_nil
    rw [hg, List.cons_append] at hgap
    obtain ⟨rfl, -⟩ := List.cons.inj hgap
    obtain ⟨t', ht'⟩ := trimmed_front o (trimRight rest)
    exact ⟨k, _, hk, by rw [opening_trimmed, ht', hword, hg, List.cons_append]⟩
  · rintro ⟨k, behind, hk, htrim⟩
    obtain ⟨w, v, hw, -, -, haround⟩ := blanks_around (o.text rest)
    exact ⟨w, k, behind ++ v, hw, hk, by rw [haround, htrim]; simp⟩

/-- An end does not begin with an alias that reads `FROM`. -/
theorem ending_from (hg : Gap g) (hk : Keyword "from" k) (s : List Char) :
    ending? (g ++ (k ++ s)) = none := by
  obtain ⟨c, r, rfl⟩ := List.exists_cons_of_ne_nil (keyword_word hk (by decide) (by decide)).ne_nil
  have hc : c.toLower = 'f' := (List.cons.inj (show c.toLower :: _ = 'f' :: _ from hk)).1
  have hletter : isLetter 'w' c = false := by
    rw [Bool.eq_false_iff]
    intro hw
    rcases of_letter hw with hlower | rfl
    · rw [hc] at hlower
      exact absurd hlower (by decide)
    · exact absurd hc (by decide)
  have hblank : isBlank c = false := letter_not_blank (by rw [hc]; rfl)
  have hink : isBlankText (g ++ (c :: r ++ s)) = false := by simp [isBlankText, hblank]
  have hno : afterKeyword? "where".toList (c :: r ++ s) = none := no_where hletter _
  simp only [ending?, whereClause?, gap_read hg (keyword_ends hk (by decide) s),
    Option.bind_some, hno, hink]
  rfl

theorem projection_word {path : List String} (hp : IsWord p)
    (h : projectionPath? rowName p = some path) : p = rowName := by
  cases of_projectionPath h with
  | row => rfl
  | path rest =>
    have hpoint := hp.word '.' (by simp)
    exact absurd hpoint (by decide)

/-- The path behind a gap is found in one way. -/
theorem path_unique {t t' : List Char} (hg : Gap g) (hg' : Gap g') (hp : IsPath p) (hk : IsPath k)
    (ht : EndsRun isPathChar t) (ht' : EndsRun isPathChar t')
    (h : g ++ (p ++ t) = g' ++ (k ++ t')) :
    p = k ∧ t = t' := by
  have hleft := congrArg trimLeft h
  rw [trimLeft_blanks hg.blanks (path_ends hp t),
    trimLeft_blanks hg'.blanks (path_ends hk t')] at hleft
  obtain ⟨htake, hdrop⟩ := run_split hp.path ht
  obtain ⟨htake', hdrop'⟩ := run_split hk.path ht'
  rw [hleft] at htake hdrop
  exact ⟨htake.symm.trans htake', hdrop.symm.trans hdrop'⟩

/-- The projection behind a keyword in front reads on only where it is a `FROM` itself. -/
theorem from_again (o : Opening) {found : List Char}
    (h : afterSpacedKeyword? "from" (o.gap ++ (o.projection ++ (o.gap' ++ s))) = some found) :
    Keyword "from" o.projection := by
  obtain ⟨g, k, g', hg, hk, hg', -, hsplit⟩ := of_afterSpacedKeyword (by decide) h
  have hword := word_path (keyword_word hk (by decide) (by decide))
  rw [List.append_assoc, List.append_assoc] at hsplit
  obtain ⟨heq, -⟩ := path_unique o.apart hg o.path hword (gap_ends_path o.apart' s)
    (gap_ends_path hg' found) hsplit
  rw [heq]
  exact hk

/-- Where the projection is a `FROM`, it is the alias as well, so that there is no alias when the
model is read as what stands behind the one in front of it. -/
theorem no_alias_again (o : Opening) {path : List String} {name' found' : Option (List Char)}
    (hfrom : Keyword "from" o.projection) (hbehind : behindModel? rest = some (name, found))
    (hpath : projectionPath? (name.getD defaultName) o.projection = some path)
    (h : behindModel? (o.gap'' ++ (o.model ++ rest)) = some (name', found')) : name' = none := by
  obtain ⟨word, g, r, -, hg, hword, hsplit, hending⟩ | ⟨hnone, -⟩ := of_behind h
  · have hends : EndsRun isPathChar r := ending_ends (fun c hc => blank_not_path hc) hending
    obtain ⟨-, rfl⟩ :=
      path_unique o.apart'' hg o.named (word_path hword) (behind_ends hbehind) hends hsplit
    have hname := projection_word (keyword_word hfrom (by decide) (by decide)) hpath
    obtain ⟨word', g', r', rfl, hg', -, rfl, -⟩ | ⟨rfl, -⟩ := of_behind hbehind
    · obtain rfl : o.projection = word' := hname
      rw [ending_from hg' hfrom] at hending
      cases hending
    · rw [hname] at hfrom
      exact absurd hfrom (by unfold Keyword; decide)
  · exact hnone

/-- With the keyword put in front of it once more, an accepted text is refused. Its own keyword is
the projection then, which is neither the name of the rows nor a path behind it. -/
theorem prefixed_refused (o : Opening) {path : List String}
    (hbehind : behindModel? rest = some (name, found))
    (hpath : projectionPath? (name.getD defaultName) o.projection = some path) :
    ∃ reason, Select.parse (String.ofList ("SELECT ".toList ++ o.trimmed.text rest)) =
      .error (.invalid reason) := by
  have hselect : Keyword "select" "SELECT".toList := rfl
  have hspace : Gap [' '] := by decide
  have hnone : Blanks [] := by decide
  have hword := letters_word o.letters
  rw [Select.parse_eq, String.toList_ofList]
  by_cases hfrom : Keyword "from" o.projection
  · have hfromWord := keyword_word o.keyword (by decide) (by decide)
    let again : Opening := ⟨[], "SELECT".toList, [' '], o.selectWord, o.gap, o.projection, o.gap',
      o.fromWord, hnone, keyword_letters hselect, hspace, word_path hword, o.apart, hfrom, o.apart',
      word_path hfromWord⟩
    have htext : "SELECT ".toList ++ o.trimmed.text rest =
        again.text (o.gap'' ++ (o.model ++ rest)) := by
      simp [again, Opening.text, Opening.trimmed]
    have hends : EndsRun isPathChar (o.gap'' ++ (o.model ++ rest)) :=
      gap_ends_path o.apart'' _
    rw [htext, opening_clauses again hends]
    cases hagain : behindModel? (o.gap'' ++ (o.model ++ rest)) with
    | none => exact ⟨_, rfl⟩
    | some both =>
      obtain ⟨name', found'⟩ := both
      obtain rfl := no_alias_again o hfrom hbehind hpath hagain
      have hunknown : projectionPath? defaultName o.selectWord = none := by
        refine Option.eq_none_iff_forall_ne_some.mpr fun path' hpath' => ?_
        have hlength := letters_length o.letters
        rw [projection_word hword hpath'] at hlength
        exact absurd hlength (by decide)
      simp only [Option.map_some, Option.getD_none, again, hunknown]
      exact ⟨_, rfl⟩
  · obtain ⟨t, ht⟩ := trimmed_front o rest
    have hends : EndsRun isPathChar (o.gap ++ (o.projection ++ (o.gap' ++ t))) :=
      gap_ends_path o.apart _
    have hclauses := clauses_front hnone (keyword_letters hselect) hspace (word_path hword) hends
    have htext : "SELECT ".toList ++ o.trimmed.text rest =
        [] ++ ("SELECT".toList ++ ([' '] ++ (o.selectWord ++
          (o.gap ++ (o.projection ++ (o.gap' ++ t)))))) := by
      rw [ht]
      rfl
    rw [htext, hclauses]
    cases hspaced : afterSpacedKeyword? "from" (o.gap ++ (o.projection ++ (o.gap' ++ t))) with
    | none => exact ⟨_, rfl⟩
    | some found => exact absurd (from_again o hspaced) hfrom

theorem normalize_spaced {text : String} {q : Select} (h : Select.parse text = .ok q)
    (hs : Spaced text.toList) : Select.parse (normalize text) = .ok q := by
  obtain ⟨o, rest, -, -, -, -, htext, -⟩ := of_accepted h
  have hselect : startsWithSelect (strip text).toList = true := by
    rw [strip, String.toList_ofList, htext]
    exact (spaced_iff o rest).mp (htext ▸ hs)
  rw [normalize, if_pos hselect]
  exact select_trimmed h

theorem normalize_unspaced {text : String} {q : Select} (h : Select.parse text = .ok q)
    (hs : ¬Spaced text.toList) :
    ∃ reason, Select.parse (normalize text) = .error (.invalid reason) := by
  obtain ⟨o, rest, name, found, path, cs, htext, hbehind, hpath, hread, -⟩ := of_accepted h
  have hselect : ¬startsWithSelect (strip text).toList = true := by
    rw [strip, String.toList_ofList, htext]
    exact fun hstarts => hs (htext ▸ (spaced_iff o rest).mpr hstarts)
  have hnormal : normalize text =
      String.ofList ("SELECT ".toList ++ o.trimmed.text (trimRight rest)) := by
    have hprefix : ∀ (front : String) (s : List Char),
        front ++ String.ofList s = String.ofList (front.toList ++ s) := by
      intro front s
      rw [String.ofList_append, String.ofList_toList]
    rw [normalize, if_neg hselect, strip, htext, opening_trimmed]
    exact hprefix "SELECT " _
  rw [hnormal]
  exact prefixed_refused o (behind_trimmed hbehind hread) hpath

theorem accepted_ink {text : String} {q : Select} (h : Select.parse text = .ok q) :
    isBlankText text.toList = false := by
  obtain ⟨o, rest, -, -, -, -, htext, -⟩ := of_accepted h
  obtain ⟨c, model, hmodel⟩ := List.exists_cons_of_ne_nil o.named.ne_nil
  have hc : isBlank c = false := path_not_blank (o.named.path c (by simp [hmodel]))
  rw [htext]
  simp [Opening.text, isBlankText, hmodel, hc]

/-- An accepted text is accepted as the same query when it is normalised, just where it begins with
the keyword in ASCII letters and a space. Otherwise it is refused as invalid, so that a handler with
a record store, which would answer the text itself, fails or selects nothing. -/
theorem accepted_normalized {text : String} {q : Select} (haccepted : Select.parse text = .ok q) :
    (Select.parse (normalize text) = .ok q ↔ Spaced text.toList) ∧
    (Spaced text.toList →
      ∀ store : RecordStore, store.create (normalize text) = store.create text) ∧
    (¬Spaced text.toList → ∃ reason, Select.parse (normalize text) = .error (.invalid reason) ∧
      ∀ (h : Handler) (store : RecordStore), h.services.queries = store.engine → ∀ params,
        (h.selectOne text params).outcome = .failed (.query (.invalid reason)) ∧
        (h.selectAll text params).outcome = .done .null) := by
  refine ⟨⟨fun h => ?_, normalize_spaced haccepted⟩, fun hs store => ?_, fun hs => ?_⟩
  · refine Classical.byContradiction fun hs => ?_
    obtain ⟨reason, hrefused⟩ := normalize_unspaced haccepted hs
    rw [hrefused] at h
    cases h
  · rw [RecordStore.create, RecordStore.create, normalize_spaced haccepted hs, haccepted]
  · obtain ⟨reason, hrefused⟩ := normalize_unspaced haccepted hs
    refine ⟨reason, hrefused, fun h store hstore params => ?_⟩
    have hcreate : store.create (normalize text) = .error (.invalid reason) := by
      rw [RecordStore.create, hrefused]
      rfl
    rw [Handler.selectOne_store hstore (accepted_ink haccepted),
      Handler.selectAll_store hstore (accepted_ink haccepted), hcreate]
    exact ⟨rfl, rfl⟩

theorem accepted_normalized_line :
    Select.parse "\tselect \nself FROM M " = .ok ⟨"M", [], []⟩ ∧
      Select.parse (normalize "\tselect \nself FROM M ") = .ok ⟨"M", [], []⟩ := by
  have hread : Select.parse "\tselect \nself FROM M " = .ok ⟨"M", [], []⟩ := rfl
  have hspaced : Spaced "\tselect \nself FROM M ".toList :=
    ⟨['\t'], "select".toList, "\nself FROM M ".toList, by decide, rfl, rfl⟩
  obtain ⟨hnormal, -⟩ := accepted_normalized hread
  exact ⟨hread, hnormal.mpr hspaced⟩

/-- With a tab behind the keyword an accepted text is refused when it is normalised. -/
theorem tab_after_select :
    Select.parse "SELECT\tself FROM M self" = .ok ⟨"M", [], []⟩ ∧
      Select.parse (normalize "SELECT\tself FROM M self") =
        .error (.invalid "SELECT SELECT\tself FROM M self") :=
  ⟨rfl, rfl⟩

end ActionDispatch.Query
