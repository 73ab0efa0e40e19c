import ActionDispatch.Proofs.Decimal.Whole
import ActionDispatch.Proofs.Query.Clauses

/-!
# Reading conditions

The texts that spell a condition or a conjunction of conditions are read as just these conditions.
White space inside a condition stands in front of an operator or an operand and none of them begins
like `AND`, so that a conjunction falls apart between its conditions and nowhere else.
-/

set_option autoImplicit false

namespace ActionDispatch.Query
open Text

structure FieldPath (path : List String) : Prop where
  ne_nil : path ≠ []
  words : ∀ name ∈ path, IsWord name.toList

instance (path : List String) : Decidable (FieldPath path) :=
  decidable_of_iff (path ≠ [] ∧ ∀ name ∈ path, IsWord name.toList)
    ⟨fun h => ⟨h.1, h.2⟩, fun h => ⟨h.ne_nil, h.words⟩⟩

def pathText (path : List String) : List Char :=
  ['.'].intercalate (path.map String.toList)

def fieldText (rowName : List Char) (path : List String) : List Char :=
  rowName ++ '.' :: pathText path

theorem pathNames_text {path : List String} (hp : FieldPath path) :
    pathNames (pathText path) = path := by
  have hpoint : ∀ s ∈ path.map String.toList, '.' ∉ s := by
    intro s hs hmem
    obtain ⟨name, hname, rfl⟩ := List.mem_map.mp hs
    have hword := (hp.words name hname).word _ hmem
    exact absurd hword (by decide)
  have hne : path.map String.toList ≠ [] := by simpa using hp.ne_nil
  rw [pathNames, pathText, List.splitOn_intercalate '.' hpoint hne]
  simp

theorem pathText_isPath {path : List String} (hp : FieldPath path) : IsPath (pathText path) := by
  obtain ⟨hne, hwords⟩ := hp
  induction path with
  | nil => exact absurd rfl hne
  | cons name path ih =>
    have hname := word_path (hwords name (by simp))
    cases path with
    | nil => simpa [pathText] using hname
    | cons next path =>
      have hrest := ih (by simp) (fun n hn => hwords n (by simp_all))
      have htext : pathText (name :: next :: path) =
          name.toList ++ '.' :: pathText (next :: path) := by
        simp [pathText, List.intercalate_cons_cons]
      rw [htext]
      refine ⟨by simp, fun c hc => ?_⟩
      rcases List.mem_append.mp hc with hc | hc
      · exact hname.path c hc
      · rcases List.mem_cons.mp hc with rfl | hc
        · rfl
        · exact hrest.path c hc

inductive Operand.Spelled : Operand → List Char → Prop
  | named {name : String} (hname : IsWord name.toList) : Spelled (.named name) (':' :: name.toList)
  | positional {k : Nat} (hpos : 0 < k) (hk : k < Decimal.wordLimit) :
      Spelled (.positional k) ('?' :: (toString k).toList)
  | null : Spelled (.literal .null) "null".toList
  | bool (b : Bool) : Spelled (.literal (.bool b)) (toString b).toList
  | int (n : Int64) : Spelled (.literal (.int n)) (toString n.toInt).toList

theorem integer_literal {n : Int64} {s : List Char} (hint : Decimal.integer? s = some n)
    (hfirst : s.head?.any (fun c => c.isDigit || c == '-') = true) :
    Operand.parse s = .ok (.literal (.int n)) := by
  obtain ⟨c, s, rfl⟩ : ∃ c r, s = c :: r := by
    cases s with
    | nil => cases hfirst
    | cons c r => exact ⟨c, r, rfl⟩
  have hc : (c.isDigit || c == '-') = true := hfirst
  have hother : ∀ d, (d.isDigit || d == '-') = false → c ≠ d := by
    rintro d hd rfl
    rw [hc] at hd
    cases hd
  have hq : quotedText? (c :: s) = none := by
    cases s with
    | nil => rfl
    | cons d s =>
      simp [quotedText?, hother '\'' (by decide), hother '"' (by decide)]
  have hliteral : literal? (c :: s) = some (.int n) := by
    simp [literal?, hother 'n' (by decide), hother 't' (by decide),
      hother 'f' (by decide), hq, hint]
  rw [Operand.parse, hliteral]
  · exact fun _ h => hother ':' (by decide) (List.cons.inj h).1
  · exact fun _ h => hother '?' (by decide) (List.cons.inj h).1

theorem operand_read {o : Operand} {s : List Char} (h : o.Spelled s) : Operand.parse s = .ok o := by
  cases h with
  | named hname =>
    have hall := List.all_eq_true.mpr hname.word
    have hne := hname.ne_nil
    simp_all [Operand.parse]
  | @positional k hpos hk =>
    have hall : (Nat.toDigits 10 k).all isDecimalDigit = true :=
      List.all_eq_true.mpr fun c hc =>
        digit_holds isDecimalDigit (by decide) (Decimal.digits_are_digits k c hc)
    have hne : (Nat.toDigits 10 k).isEmpty = false := by simp [Nat.toDigits_ne_nil]
    simp [Operand.parse, hall, hne, position?, Decimal.natural_digits, hpos, hk]
  | null => rfl
  | bool b => cases b <;> rfl
  | int n =>
    obtain ⟨negative, digits, ht, hne, hd, hv⟩ := Decimal.integer_text n
    rw [ht]
    refine integer_literal hv ?_
    cases negative with
    | true => rfl
    | false =>
      obtain ⟨c, digits, rfl⟩ := List.exists_cons_of_ne_nil hne
      simp [hd c (by simp)]

structure IsToken (s : List Char) : Prop where
  first : s.head?.any (fun c => c.toLower != 'a') = true
  dense : ∀ c ∈ s, isBlank c = false

instance (s : List Char) : Decidable (IsToken s) :=
  decidable_of_iff (s.head?.any (fun c => c.toLower != 'a') = true ∧ s.all (!isBlank ·) = true)
    ⟨fun h => ⟨h.1, by simpa using h.2⟩, fun h => ⟨h.first, by simpa using h.dense⟩⟩

theorem digits_token {sign digits : List Char} (hs : IsToken sign ∨ sign = [])
    (hne : digits ≠ []) (hd : ∀ c ∈ digits, c.isDigit = true) : IsToken (sign ++ digits) := by
  have hall : ∀ c ∈ digits, isBlank c = false ∧ (c.toLower != 'a') = true := by
    intro c hc
    simpa using digit_holds (fun c => !isBlank c && c.toLower != 'a') (by decide) (hd c hc)
  rcases hs with hs | rfl
  · obtain ⟨c, sign, rfl⟩ : ∃ c r, sign = c :: r := by
      cases sign with
      | nil => exact absurd hs.first (by decide)
      | cons c r => exact ⟨c, r, rfl⟩
    refine ⟨hs.first, fun d hd' => ?_⟩
    rcases List.mem_append.mp hd' with h | h
    · exact hs.dense d h
    · exact (hall d h).1
  · obtain ⟨c, digits, rfl⟩ := List.exists_cons_of_ne_nil hne
    exact ⟨by simpa using (hall c (by simp)).2, fun d hd' => (hall d hd').1⟩

theorem operand_token {o : Operand} {s : List Char} (h : o.Spelled s) : IsToken s := by
  cases h with
  | @named name hname =>
    refine ⟨rfl, fun c hc => ?_⟩
    rcases List.mem_cons.mp hc with rfl | hc
    · decide
    · exact word_not_blank (hname.word c hc)
  | @positional k =>
    have hdigits : (toString k).toList = Nat.toDigits 10 k := by simp
    have hsign : IsToken ['?'] := by decide
    rw [hdigits]
    exact digits_token (.inl hsign) Nat.toDigits_ne_nil (Decimal.digits_are_digits k)
  | null => decide
  | bool b => cases b <;> decide
  | int n =>
    obtain ⟨negative, digits, ht, hne, hd, -⟩ := Decimal.integer_text n
    have hsign : IsToken ['-'] := by decide
    rw [ht]
    cases negative with
    | true => exact digits_token (.inl hsign) hne hd
    | false => exact digits_token (.inr rfl) hne hd

theorem token_solid {s : List Char} (hs : IsToken s) : Solid s := by
  refine dense_solid ?_ hs.dense
  rintro rfl
  exact absurd hs.first (by decide)

def operatorText (negated : Bool) : List Char :=
  if negated then ['!', '='] else ['=']

inductive Condition.Spelled (rowName : List Char) : Condition → List Char → Prop
  | intro {path : List String} {negated : Bool} {operand : Operand} {w v t : List Char}
      (hpath : FieldPath path) (hw : Blanks w) (hv : Blanks v) (ht : operand.Spelled t) :
      Spelled rowName ⟨path, negated, operand⟩
        (fieldText rowName path ++ (w ++ (operatorText negated ++ (v ++ t))))

theorem operator_read (negated : Bool) (s : List Char) :
    operator? (operatorText negated ++ s) = some (negated, s) := by
  cases negated <;> rfl

theorem comparison_read {rowName path w s : List Char} (hr : IsWord rowName) (hpath : IsPath path)
    (hw : Blanks w) (negated : Bool) (hs : trim s ≠ []) :
    Comparison.parse? (rowName ++ '.' :: (path ++ (w ++ (operatorText negated ++ s)))) =
      some ⟨rowName, path, negated, trim s⟩ := by
  have hop : EndsRun isBlank (operatorText negated ++ s) := by
    cases negated <;> exact ends_cons (by decide)
  have hpathEnds : EndsRun isPathChar (w ++ (operatorText negated ++ s)) :=
    ends_append (fun c hc => blank_not_path hc) hw
      (by cases negated <;> exact ends_cons (by decide))
  have hrowEnds : EndsRun isWordChar ('.' :: (path ++ (w ++ (operatorText negated ++ s)))) :=
    ends_cons (by decide)
  obtain ⟨htake, hdrop⟩ := run_split hr.word hrowEnds
  obtain ⟨htake', hdrop'⟩ := run_split hpath.path hpathEnds
  simp only [Comparison.parse?, trimLeft_solid (path_ends (word_path hr) _), hdrop, htake, hdrop',
    htake', trimLeft_blanks hw hop, operator_read]
  simp [hr.ne_nil, hpath.ne_nil, hs]

theorem condition_read {rowName : List Char} (hr : IsWord rowName) {c : Condition} {s : List Char}
    (h : c.Spelled rowName s) : Condition.parse rowName s = .ok c := by
  cases h with
  | @intro path negated operand w v t hpath hw hv ht =>
    have htoken := token_solid (operand_token ht)
    have htrim : trim (v ++ t) = t := by
      simpa using trim_blanks (v := []) hv (by simp [Blanks]) htoken
    have hcomparison := comparison_read hr (pathText_isPath hpath) hw negated (s := v ++ t)
      (by rw [htrim]; exact htoken.ne_nil)
    have hparse := operand_read ht
    simp only [fieldText, List.append_assoc, List.cons_append, Condition.parse, hcomparison, htrim,
      hparse]
    simp [Except.map, pathNames_text hpath]

theorem condition_solid {rowName : List Char} (hr : IsWord rowName) {c : Condition} {s : List Char}
    (h : c.Spelled rowName s) : Solid s := by
  cases h with
  | @intro path negated operand w v t hpath hw hv ht =>
    have hname := path_solid (word_path hr)
    simpa [fieldText] using solid_around hname
      ('.' :: (pathText path ++ w ++ operatorText negated ++ v))
      (token_solid (operand_token ht))

inductive Conjunction (rowName : List Char) : List Condition → List Char → Prop
  | one {c : Condition} {s : List Char} (hc : c.Spelled rowName s) : Conjunction rowName [c] s
  | cons {c : Condition} {cs : List Condition} {s g k g' t : List Char} (hc : c.Spelled rowName s)
      (hg : Gap g) (hk : Keyword "and" k) (hg' : Gap g') (hcs : Conjunction rowName cs t) :
      Conjunction rowName (c :: cs) (s ++ (g ++ k ++ g' ++ t))

theorem conjuncts_step {c : Char} {s p : List Char} {ps : List (List Char)}
    (hno : afterSpacedKeyword? "and" (c :: s) = none) (hs : conjuncts s = p :: ps) :
    conjuncts (c :: s) = (c :: p) :: ps := by
  rw [conjuncts]
  split
  next hand => rw [hno] at hand; cases hand
  next => rw [hs]; rfl

theorem conjuncts_dense {t s p : List Char} {ps : List (List Char)}
    (ht : ∀ c ∈ t, isBlank c = false) (hs : conjuncts s = p :: ps) :
    conjuncts (t ++ s) = (t ++ p) :: ps := by
  induction t with
  | nil => exact hs
  | cons c t ih =>
    have hno : afterSpacedKeyword? "and" (c :: (t ++ s)) = none := by
      simp [afterSpacedKeyword?, afterBlank?, ht c (by simp)]
    exact conjuncts_step hno (ih fun d hd => ht d (by simp [hd]))

/-- White space in front of something else than an `AND` stays where it is. -/
theorem conjuncts_blanks {w s p : List Char} {ps : List (List Char)} (hw : Blanks w)
    (hblank : EndsRun isBlank s) (ha : s.head?.any (fun c => c.toLower != 'a') = true)
    (hs : conjuncts s = p :: ps) : conjuncts (w ++ s) = (w ++ p) :: ps := by
  induction w with
  | nil => exact hs
  | cons b w ih =>
    have hrest : Blanks w := fun d hd => hw d (by simp [hd])
    have hkeyword : afterKeyword? "and".toList s = none := by
      cases s with
      | nil => rfl
      | cons c s =>
        have hc : c.toLower ≠ 'a' := by simpa using ha
        simp [afterKeyword?, isLetter, hc]
    have hno : afterSpacedKeyword? "and" (b :: (w ++ s)) = none := by
      simp only [afterSpacedKeyword?, afterBlank?, hw b (by simp), if_true,
        trimLeft_blanks hrest hblank, Option.bind_some, hkeyword, Option.bind_none]
    exact conjuncts_step hno (ih hrest)

theorem conjuncts_condition {rowName : List Char} (hr : IsWord rowName) {c : Condition}
    {s rest p : List Char} {ps : List (List Char)} (h : c.Spelled rowName s)
    (hrest : conjuncts rest = p :: ps) : conjuncts (s ++ rest) = (s ++ p) :: ps := by
  cases h with
  | @intro path negated operand w v t hpath hw hv ht =>
    have htoken := operand_token ht
    have hfield : ∀ c ∈ fieldText rowName path, isBlank c = false := by
      intro c hc
      simp only [fieldText, List.mem_append, List.mem_cons] at hc
      rcases hc with hc | rfl | hc
      · exact word_not_blank (hr.word c hc)
      · decide
      · exact path_not_blank ((pathText_isPath hpath).path c hc)
    have hoperator : ∀ c ∈ operatorText negated, isBlank c = false := by
      cases negated <;> simp [operatorText] <;> decide
    have hoperand := conjuncts_dense htoken.dense hrest
    have hends : EndsRun isBlank (t ++ rest) := solid_ends (token_solid htoken) rest
    have hfirst : (t ++ rest).head?.any (fun c => c.toLower != 'a') = true := by
      have hf := htoken.first
      cases t with
      | nil => cases hf
      | cons c t => exact hf
    have hright := conjuncts_dense hoperator (conjuncts_blanks hv hends hfirst hoperand)
    have hwhole := conjuncts_dense hfield (conjuncts_blanks hw
      (by cases negated <;> exact ends_cons (by decide)) (by cases negated <;> rfl) hright)
    simpa using hwhole

theorem conjunction_solid {rowName : List Char} (hr : IsWord rowName) {cs : List Condition}
    {s : List Char} (h : Conjunction rowName cs s) : Solid s := by
  induction h with
  | one hc => exact condition_solid hr hc
  | @cons c cs s g k g' t hc hg hk hg' hcs ih =>
    exact solid_around (condition_solid hr hc) (g ++ k ++ g') ih

theorem conjuncts_and {g k g' s : List Char} (hg : Gap g) (hk : Keyword "and" k) (hg' : Gap g')
    (hs : EndsRun isBlank s) : conjuncts (g ++ k ++ g' ++ s) = [] :: conjuncts s := by
  have hand := spaced_keyword_read (by decide) hg hk hg' hs
  obtain ⟨c, g, rfl⟩ := List.exists_cons_of_ne_nil hg.ne_nil
  simp only [List.cons_append] at hand ⊢
  rw [conjuncts]
  split
  next rest hrest =>
    rw [hand] at hrest
    obtain rfl := Option.some.inj hrest
    rfl
  next hnone => rw [hand] at hnone; cases hnone

/-- The parts of a conjunction are its conditions. -/
theorem conjuncts_read {rowName : List Char} (hr : IsWord rowName) {cs : List Condition}
    {s : List Char} (h : Conjunction rowName cs s) :
    List.Forall₂ (Condition.Spelled rowName) cs (conjuncts s) := by
  induction h with
  | @one c s hc =>
    have hnil : conjuncts [] = [[]] := by rw [conjuncts]
    have hparts := conjuncts_condition hr hc hnil
    simp only [List.append_nil] at hparts
    rw [hparts]
    exact .cons hc .nil
  | @cons c cs s g k g' t hc hg hk hg' hcs ih =>
    have hand := conjuncts_and hg hk hg' (conjunction_solid hr hcs).first
    rw [conjuncts_condition hr hc hand, List.append_nil]
    exact .cons hc ih

theorem mapM_forall₂ {α β ε : Type} {f : β → Except ε α} {r : α → β → Prop}
    (hf : ∀ a b, r a b → f b = .ok a) {as : List α} {bs : List β} (h : List.Forall₂ r as bs) :
    bs.mapM f = .ok as := by
  induction h with
  | nil => rfl
  | cons hab _ ih => rw [List.mapM_cons, hf _ _ hab, ih]; rfl

theorem conjunction_read {rowName : List Char} (hr : IsWord rowName) {cs : List Condition}
    {s : List Char} (h : Conjunction rowName cs s) : Condition.parseAll rowName s = .ok cs := by
  rw [Condition.parseAll, solid_trim (conjunction_solid hr h)]
  exact mapM_forall₂ (fun _ _ hc => condition_read hr hc) (conjuncts_read hr h)

end ActionDispatch.Query
