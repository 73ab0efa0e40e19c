import ActionDispatch.Proofs.Query.Dialect
import ActionDispatch.Proofs.Query.Splitting

/-!
# Accepted queries

What is accepted as a query is made of clauses, of conditions between `AND`s and of one operand a
condition, and what is refused is refused as invalid. An operand of an accepted query is in the
dialect or begins and ends with a quote that it also has inside: only the first and the last
character of a literal are looked at.
-/

set_option autoImplicit false

namespace ActionDispatch.Query
open Text

def IsQuote (q : Char) : Prop := q = '\'' ∨ q = '"'

theorem quotedText_iff {s text : List Char} :
    quotedText? s = some text ↔ ∃ q, IsQuote q ∧ s = q :: (text ++ [q]) := by
  constructor
  · intro h
    match s with
    | [] => cases h
    | [_] => cases h
    | first :: second :: rest =>
      simp only [quotedText?] at h
      split at h
      next hquotes =>
        obtain rfl := Option.some.inj h
        obtain ⟨init, hinit⟩ := List.getLast?_eq_some_iff.mp hquotes.2
        exact ⟨first, hquotes.1, by rw [hinit, List.dropLast_concat]⟩
      next => cases h
  · rintro ⟨q, hq, rfl⟩
    obtain ⟨c, rest, hrest⟩ := List.exists_cons_of_ne_nil (List.append_ne_nil_of_right_ne_nil text
      (List.cons_ne_nil q []))
    have hlast : (c :: rest).getLast? = some q := by rw [← hrest, List.getLast?_concat]
    have hinit : (c :: rest).dropLast = text := by rw [← hrest, List.dropLast_concat]
    rw [hrest]
    simp only [quotedText?, hlast, hinit, and_true]
    exact if_pos hq

def marks : List Char := ['\'', '"', ':', '?']

theorem quote_mark {q : Char} (hq : IsQuote q) : q ∈ marks := by
  obtain rfl | rfl := hq <;> decide

theorem mark_no_number {c : Char} (hc : c ∈ marks) (s : List Char) :
    Decimal.integer? (c :: s) = none ∧ Decimal.float? (c :: s) = none := by
  simp only [marks, List.mem_cons, List.not_mem_nil, or_false] at hc
  have hlower : ∀ letter ∈ ['i', 'n'], ∀ word, (c :: s).map Char.toLower ≠ letter :: word := by
    intro letter hletter word h
    obtain ⟨rfl, -⟩ := List.cons.inj h
    obtain rfl | rfl | rfl | rfl := hc <;> exact absurd hletter (by decide)
  have hinf : (c :: s).map Char.toLower ≠ "inf".toList := hlower 'i' (by decide) _
  have hinfinity : (c :: s).map Char.toLower ≠ "infinity".toList := hlower 'i' (by decide) _
  have hnan : (c :: s).map Char.toLower ≠ "nan".toList := hlower 'n' (by decide) _
  have hunsigned : Decimal.unsigned? (c :: s) = none := by
    simp only [Decimal.unsigned?, hinf, hinfinity, hnan, or_self, if_false]
    obtain rfl | rfl | rfl | rfl := hc <;> rfl
  obtain rfl | rfl | rfl | rfl := hc <;> exact ⟨rfl, hunsigned⟩

/-- Behind a quote there is either a literal up to the same quote at the end or none at all. -/
theorem operand_quote {q : Char} (hq : IsQuote q) (s : List Char) :
    Operand.parse (q :: s) =
      match quotedText? (q :: s) with
      | some text => .ok (.literal (.string (String.ofList text)))
      | none => .error (.invalid ("unsupported operand: " ++ String.ofList (q :: s))) := by
  obtain ⟨hint, hfloat⟩ := mark_no_number (quote_mark hq) s
  have hliteral : literal? (q :: s) =
      (quotedText? (q :: s)).map fun text => .string (String.ofList text) := by
    cases htext : quotedText? (q :: s) <;> obtain rfl | rfl := hq <;>
      simp [literal?, htext, hint, hfloat]
  cases htext : quotedText? (q :: s) <;> rw [htext] at hliteral <;> obtain rfl | rfl := hq <;>
    simp [Operand.parse, hliteral]

theorem operand_closed {q : Char} (hq : IsQuote q) (text : List Char) :
    Operand.parse (q :: (text ++ [q])) = .ok (.literal (.string (String.ofList text))) := by
  rw [operand_quote hq, quotedText_iff.mpr ⟨q, hq, rfl⟩]

theorem operand_open {q : Char} (hq : IsQuote q) {s : List Char} (hs : q ∉ s) :
    Operand.parse (q :: s) =
      .error (.invalid ("unsupported operand: " ++ String.ofList (q :: s))) := by
  have hnone : quotedText? (q :: s) = none := by
    refine Option.eq_none_iff_forall_ne_some.mpr fun text htext => ?_
    obtain ⟨q', -, heq⟩ := quotedText_iff.mp htext
    obtain ⟨rfl, rfl⟩ := List.cons.inj heq
    simp at hs
  rw [operand_quote hq, hnone]

inductive Operand.Proper : Operand → List Char → Prop
  | named {name : List Char} (hname : IsWord name) :
      Proper (.named (String.ofList name)) (':' :: name)
  | positional {digits : List Char} {k : Nat} (hdigits : Decimal.natural? digits = some k)
      (hpos : 0 < k) (hk : k < Decimal.wordLimit) : Proper (.positional k) ('?' :: digits)
  | null : Proper (.literal .null) "null".toList
  | bool (b : Bool) : Proper (.literal (.bool b)) (toString b).toList
  | quoted {q : Char} {text : List Char} (hq : IsQuote q) (htext : q ∉ text) :
      Proper (.literal (.string (String.ofList text))) (q :: (text ++ [q]))
  | int {s : List Char} {n : Int64} (hn : Decimal.integer? s = some n) :
      Proper (.literal (.int n)) s
  | float {s : List Char} {x : Float} (hn : Decimal.integer? s = none)
      (hx : Decimal.float? s = some x) : Proper (.literal (.float x)) s

inductive Operand.Overquoted : Operand → List Char → Prop
  | intro {q : Char} {text : List Char} (hq : IsQuote q) (htext : q ∈ text) :
      Overquoted (.literal (.string (String.ofList text))) (q :: (text ++ [q]))

def Operand.Accepted (o : Operand) (s : List Char) : Prop := o.Proper s ∨ o.Overquoted s

def Reads {α : Type} (P : α → Prop) (x : Except QueryError α) : Prop :=
  (∃ a, x = .ok a ∧ P a) ∨ ∃ reason, x = .error (.invalid reason)

theorem Reads.ok {α : Type} {P : α → Prop} {a : α} (h : P a) : Reads P (.ok a) := .inl ⟨a, rfl, h⟩

theorem Reads.invalid {α : Type} {P : α → Prop} (reason : String) :
    Reads P (.error (.invalid reason)) :=
  .inr ⟨reason, rfl⟩

theorem Reads.map {α β : Type} {P : α → Prop} {Q : β → Prop} {x : Except QueryError α} {f : α → β}
    (hx : Reads P x) (hf : ∀ a, P a → Q (f a)) : Reads Q (x.map f) := by
  obtain ⟨a, rfl, ha⟩ | ⟨reason, rfl⟩ := hx
  · exact .ok (hf a ha)
  · exact .invalid reason

theorem Reads.mono {α : Type} {P Q : α → Prop} {x : Except QueryError α} (hx : Reads P x)
    (h : ∀ a, P a → Q a) : Reads Q x := by
  obtain ⟨a, rfl, ha⟩ | hinvalid := hx
  · exact .ok (h a ha)
  · exact .inr hinvalid

theorem literal_accepted {s : List Char} {v : Value} (h : literal? s = some v) :
    (Operand.literal v).Accepted s := by
  simp only [literal?] at h
  split at h
  next hs =>
    obtain rfl := Option.some.inj h
    exact hs ▸ .inl .null
  split at h
  next hs =>
    obtain rfl := Option.some.inj h
    exact hs ▸ .inl (.bool true)
  split at h
  next hs =>
    obtain rfl := Option.some.inj h
    exact hs ▸ .inl (.bool false)
  split at h
  next text htext =>
    obtain rfl := Option.some.inj h
    obtain ⟨q, hq, rfl⟩ := quotedText_iff.mp htext
    by_cases hmem : q ∈ text
    · exact .inr (.intro hq hmem)
    · exact .inl (.quoted hq hmem)
  next =>
    split at h
    next n hn =>
      obtain rfl := Option.some.inj h
      exact .inl (.int hn)
    next hn =>
      obtain ⟨x, hx, rfl⟩ := Option.map_eq_some_iff.mp h
      exact .inl (.float hn hx)

theorem operand_reads (s : List Char) :
    Reads (fun o : Operand => o.Accepted s) (Operand.parse s) := by
  unfold Operand.parse
  extract_lets literal
  have hliteral : Reads (fun o : Operand => o.Accepted s) literal := by
    simp only [literal]
    split
    next value hvalue => exact .ok (literal_accepted hvalue)
    next => exact .invalid _
  split
  next name =>
    split
    next hname =>
      simp only [Bool.and_eq_true, Bool.not_eq_true', List.isEmpty_eq_false_iff,
        List.all_eq_true] at hname
      exact .ok (.inl (.named ⟨hname.1, hname.2⟩))
    next => exact hliteral
  next digits =>
    split
    next =>
      split
      next k hk =>
        simp only [position?] at hk
        split at hk
        next n hn =>
          split at hk
          next hbounds =>
            obtain rfl := Option.some.inj hk
            exact .ok (.inl (.positional hn hbounds.1 hbounds.2))
          next => cases hk
        next => cases hk
      next => exact .invalid _
    next => exact hliteral
  next => exact hliteral

theorem number_literal {s : List Char} (h : Decimal.integer? s ≠ none ∨ Decimal.float? s ≠ none) :
    literal? s = match Decimal.integer? s with
      | some n => some (.int n)
      | none => (Decimal.float? s).map .float := by
  have hword : ∀ word, Decimal.integer? word = none ∧ Decimal.float? word = none → s ≠ word := by
    rintro word ⟨hint, hfloat⟩ rfl
    simp [hint, hfloat] at h
  have hquote : quotedText? s = none := by
    refine Option.eq_none_iff_forall_ne_some.mpr fun text htext => ?_
    obtain ⟨q, hq, hs⟩ := quotedText_iff.mp htext
    exact hword _ (mark_no_number (quote_mark hq) _) hs
  have hnull := hword "null".toList ⟨rfl, rfl⟩
  have htrue := hword "true".toList ⟨rfl, rfl⟩
  have hfalse := hword "false".toList ⟨rfl, rfl⟩
  cases hint : Decimal.integer? s with
  | some n => simp only [literal?, if_neg hnull, if_neg htrue, if_neg hfalse, hquote, hint]
  | none => simp only [literal?, if_neg hnull, if_neg htrue, if_neg hfalse, hquote, hint]

theorem number_operand {s : List Char} (h : Decimal.integer? s ≠ none ∨ Decimal.float? s ≠ none)
    {v : Value} (hv : literal? s = some v) : Operand.parse s = .ok (.literal v) := by
  have hmark : ∀ c ∈ marks, ∀ r, s ≠ c :: r := by
    rintro c hc r rfl
    obtain ⟨hint, hfloat⟩ := mark_no_number hc r
    simp [hint, hfloat] at h
  rw [Operand.parse, hv]
  · exact hmark ':' (by decide)
  · exact hmark '?' (by decide)

theorem proper_read {o : Operand} {s : List Char} (h : o.Proper s) : Operand.parse s = .ok o := by
  cases h with
  | named hname =>
    have hall := List.all_eq_true.mpr hname.word
    simp [Operand.parse, hall, hname.ne_nil]
  | @positional digits k hdigits hpos hk =>
    have hnatural : digits.isEmpty = false ∧ digits.all Char.isDigit = true := by
      simp only [Decimal.natural?] at hdigits
      split at hdigits
      next h => simpa using h
      next => cases hdigits
    have hall : digits.all isDecimalDigit = true := List.all_eq_true.mpr fun c hc =>
      digit_holds isDecimalDigit (by decide) (List.all_eq_true.mp hnatural.2 c hc)
    simp [Operand.parse, hall, hnatural.1, position?, hdigits, hpos, hk]
  | null => rfl
  | bool b => cases b <;> rfl
  | quoted hq => exact operand_closed hq _
  | int hn =>
    exact number_operand (.inl (by simp [hn])) (by rw [number_literal (.inl (by simp [hn])), hn])
  | float hn hx =>
    have hsome : Decimal.float? s ≠ none := by simp [hx]
    exact number_operand (.inr hsome) (by rw [number_literal (.inr hsome), hn, hx]; rfl)

/-- An operand is accepted where it is in the dialect, and between quotes whatever it has inside. -/
theorem operand_accepted_iff {o : Operand} {s : List Char} :
    Operand.parse s = .ok o ↔ o.Accepted s := by
  constructor
  · intro h
    obtain ⟨o', ho, haccepted⟩ | ⟨reason, he⟩ := operand_reads s
    · rw [h] at ho
      cases ho
      exact haccepted
    · rw [h] at he
      cases he
  · rintro (hproper | ⟨hq, -⟩)
    · exact proper_read hproper
    · exact operand_closed hq _

section

variable (P : Operand → List Char → Prop) (rowName : List Char)

inductive Condition.Form : Condition → List Char → Prop
  | intro {path w w' v t v' : List Char} {operand : Operand} (negated : Bool) (hw : Blanks w)
      (hpath : IsPath path) (hw' : Blanks w') (hv : Blanks v) (ht : P operand t) (hv' : Blanks v') :
      Condition.Form ⟨pathNames path, negated, operand⟩
        (w ++ (rowName ++ '.' :: (path ++ (w' ++ (operatorText negated ++ (v ++ t ++ v'))))))

inductive ConjunctionForm : List Condition → List Char → Prop
  | one {c : Condition} {s : List Char} (hc : c.Form P rowName s) : ConjunctionForm [c] s
  | cons {c : Condition} {cs : List Condition} {s t s' : List Char} (hc : c.Form P rowName s)
      (ht : Separator t) (hs : ConjunctionForm cs s') : ConjunctionForm (c :: cs) (s ++ (t ++ s'))

end

theorem of_operator {s rest : List Char} {negated : Bool} (h : operator? s = some (negated, rest)) :
    s = operatorText negated ++ rest := by
  unfold operator? at h
  split at h <;> cases h <;> rfl

theorem run_cut (p : Char → Bool) (s : List Char) :
    ∃ t r, s = t ++ r ∧ s.takeWhile p = t ∧ s.dropWhile p = r ∧ ∀ c ∈ t, p c = true :=
  ⟨_, _, List.takeWhile_append_dropWhile.symm, rfl, rfl, fun _ => List.mem_takeWhile_imp⟩

theorem of_comparison {s : List Char} {c : Comparison} (h : Comparison.parse? s = some c) :
    IsWord c.rowName ∧ IsPath c.path ∧ ∃ w w' v v', Blanks w ∧ Blanks w' ∧ Blanks v ∧ Blanks v' ∧
      s = w ++ (c.rowName ++ '.' ::
        (c.path ++ (w' ++ (operatorText c.negated ++ (v ++ c.operand ++ v'))))) := by
  obtain ⟨w, s₁, rfl, -, hblank, hw⟩ := run_cut isBlank s
  obtain ⟨rowName, s₂, rfl, htake, hdrop, hname⟩ := run_cut isWordChar s₁
  simp only [Comparison.parse?, trimLeft, hblank, htake, hdrop] at h
  split at h
  next rest =>
    obtain ⟨path, s₃, rfl, htake, hdrop, hpath⟩ := run_cut isPathChar rest
    obtain ⟨w', s₄, rfl, -, hblank, hw'⟩ := run_cut isBlank s₃
    simp only [htake, hdrop, hblank] at h
    split at h
    next negated behind hoperator =>
      split at h
      next => cases h
      next hne =>
        obtain rfl := Option.some.inj h
        obtain ⟨v, v', hv, hv', -, hoperand⟩ := blanks_around behind
        obtain rfl := of_operator hoperator
        simp only [Bool.or_eq_true, List.isEmpty_iff, not_or] at hne
        exact ⟨⟨hne.1.1, hname⟩, ⟨hne.1.2, hpath⟩, w, w', v, v', hw, hw', hv, hv',
          by rw [← hoperand]⟩
    next => cases h
  next => cases h

theorem condition_reads (rowName s : List Char) :
    Reads (·.Form Operand.Accepted rowName s) (Condition.parse rowName s) := by
  unfold Condition.parse
  split
  next => exact .invalid _
  next c hc =>
    split
    next => exact .invalid _
    next hname =>
      obtain ⟨-, hpath, w, w', v, v', hw, hw', hv, hv', hs⟩ := of_comparison hc
      refine (operand_reads c.operand).map fun operand hoperand => ?_
      rw [hs, Decidable.not_not.mp hname]
      exact .intro c.negated hw hpath hw' hv hoperand hv'

theorem joined_reads {rowName s : List Char} {parts : List (List Char)} (h : Joined parts s) :
    Reads (ConjunctionForm Operand.Accepted rowName · s)
      (parts.mapM (Condition.parse rowName)) := by
  induction h with
  | one p =>
    rw [List.mapM_cons, List.mapM_nil]
    obtain ⟨c, hc, hform⟩ | ⟨reason, hc⟩ := condition_reads rowName p
    · rw [hc]
      exact .ok (.one hform)
    · rw [hc]
      exact .invalid reason
  | @cons t s ps p ht hs ih =>
    rw [List.mapM_cons]
    obtain ⟨c, hc, hform⟩ | ⟨reason, hc⟩ := condition_reads rowName p
    · obtain ⟨cs, hcs, hforms⟩ | ⟨reason, hcs⟩ := ih
      · rw [hc, hcs]
        exact .ok (.cons hform ht hforms)
      · rw [hc, hcs]
        exact .invalid reason
    · rw [hc]
      exact .invalid reason

theorem conditions_reads (rowName s : List Char) :
    Reads (ConjunctionForm Operand.Accepted rowName · (trim s)) (Condition.parseAll rowName s) :=
  joined_reads (conjuncts_joined (trim s))

inductive ProjectionForm (rowName : List Char) : List String → List Char → Prop
  | row : ProjectionForm rowName [] rowName
  | path (path : List Char) : ProjectionForm rowName (pathNames path) (rowName ++ '.' :: path)

inductive EndForm (P : Operand → List Char → Prop) (rowName : List Char) :
    List Condition → List Char → Prop
  | given {cs : List Condition} {g k g' s w : List Char} (hg : Gap g) (hk : Keyword "where" k)
      (hg' : Gap g') (hs : ConjunctionForm P rowName cs s) (hw : Blanks w) :
      EndForm P rowName cs (g ++ k ++ g' ++ (s ++ w))
  | none {w : List Char} (hw : Blanks w) : EndForm P rowName [] w

inductive Select.Form (P : Operand → List Char → Prop) : Select → List Char → Prop
  | intro {path : List String} {cs : List Condition}
      {rowName lead k g p g' k' g'' model a e : List Char} (hlead : Blanks lead)
      (hk : Letters "select" k) (hg : Gap g) (hp : IsPath p) (hpath : ProjectionForm rowName path p)
      (hg' : Gap g') (hk' : Keyword "from" k') (hg'' : Gap g'') (hm : IsPath model)
      (ha : Alias rowName a) (he : EndForm P rowName cs e) :
      Select.Form P ⟨String.ofList model, path, cs⟩
        (lead ++ (k ++ (g ++ (p ++ (g' ++ k' ++ g'' ++ (model ++ (a ++ e)))))))

inductive FilterForm (P : Operand → List Char → Prop) : List Condition → List Char → Prop
  | given {cs : List Condition} {w s v : List Char} (hw : Blanks w)
      (hs : ConjunctionForm P defaultName cs s) (hv : Blanks v) : FilterForm P cs (w ++ s ++ v)
  | none {w : List Char} (hw : Blanks w) : FilterForm P [] w

theorem of_projectionPath {rowName p : List Char} {path : List String}
    (h : projectionPath? rowName p = some path) : ProjectionForm rowName path p := by
  unfold projectionPath? at h
  split at h
  next hp =>
    obtain rfl := Option.some.inj h
    exact hp ▸ .row
  next =>
    obtain ⟨rest, hrest, rfl⟩ := Option.map_eq_some_iff.mp h
    rw [of_after hrest, List.append_assoc]
    exact .path rest

/-- The conditions behind `WHERE` reach to white space at the end, or are white space themselves. -/
theorem of_whereClause {s body : List Char} (h : whereClause? s = some body) :
    (∃ g k g' w, Gap g ∧ Keyword "where" k ∧ Gap g' ∧ Blanks w ∧ trim body = body ∧
      s = g ++ k ++ g' ++ (body ++ w)) ∨ Blanks body := by
  unfold whereClause? at h
  split at h
  next => cases h
  next rest hrest =>
    obtain ⟨behind, hbehind, hword⟩ := Option.bind_eq_some_iff.mp hrest
    obtain ⟨g, hg, -, rfl⟩ := of_afterBlank hbehind
    obtain ⟨k, hk, rfl⟩ := of_afterKeyword hword
    split at h
    next => cases h
    next found hfound =>
      obtain ⟨g', hg', hends, rfl⟩ := of_afterBlank hfound
      by_cases hempty : trimRight found = []
      · have hblanks : Blanks (g' ++ found) := fun c hc =>
          (List.mem_append.mp hc).elim (hg'.blanks c) (trimRight_nil hempty c)
        simp only [hempty, List.isEmpty_nil, Bool.not_true, Bool.false_eq_true, if_false] at h
        split at h
        next =>
          obtain rfl := Option.some.inj h
          exact .inr fun c hc => hblanks c ((List.drop_sublist _ _).subset hc)
        next => cases h
      · have hne : (trimRight found).isEmpty = false := by simpa using hempty
        simp only [hne, Bool.not_false, if_true] at h
        obtain rfl := Option.some.inj h
        obtain ⟨w, hw, hwhole⟩ := trimRight_split found
        have htrim : trim (trimRight found) = trimRight found := by
          rw [← trim_ends hends, trim_trim]
        exact .inl ⟨g, k, g', w, hg, keyword_of_letters (by decide) hk, hg', hw, htrim,
          by rw [← hwhole]; simp⟩

theorem blank_conditions {body : List Char} (h : Blanks body) (rowName : List Char) :
    Condition.parseAll rowName body = .error (.invalid "unsupported condition: ") := by
  have hparts : conjuncts [] = [[]] := by rw [conjuncts]
  rw [Condition.parseAll, trim_blank h, hparts]
  rfl

theorem ending_reads {s : List Char} {found : Option (List Char)} (h : ending? s = some found)
    (rowName : List Char) :
    Reads (EndForm Operand.Accepted rowName · s) (readConditions rowName found) := by
  unfold ending? at h
  split at h
  next body hbody =>
    obtain rfl := Option.some.inj h
    have hconditions := conditions_reads rowName body
    obtain ⟨g, k, g', w, hg, hk, hg', hw, htrim, rfl⟩ | hblank := of_whereClause hbody
    · rw [htrim] at hconditions
      exact hconditions.mono fun cs hcs => .given hg hk hg' hcs hw
    · rw [readConditions, blank_conditions hblank]
      exact .invalid _
  next =>
    split at h
    next hblank =>
      obtain rfl := Option.some.inj h
      exact .ok (.none (List.all_eq_true.mp hblank))
    next => cases h

theorem of_rowName {s word rest : List Char} (h : rowName? s = some (word, rest)) :
    ∃ g, Gap g ∧ IsWord word ∧ s = g ++ (word ++ rest) := by
  unfold rowName? at h
  split at h
  next => cases h
  next behind hbehind =>
    obtain ⟨g, hg, -, rfl⟩ := of_afterBlank hbehind
    obtain ⟨t, r, rfl, htake, hdrop, ht⟩ := run_cut isWordChar behind
    simp only [htake, hdrop] at h
    split at h
    next => cases h
    next hne =>
      obtain ⟨rfl, rfl⟩ := Prod.mk.inj (Option.some.inj h)
      exact ⟨g, hg, ⟨by simpa using hne, ht⟩, rfl⟩

theorem of_pathWord {s path rest : List Char} (h : pathWord? s = some (path, rest)) :
    IsPath path ∧ s = path ++ rest := by
  obtain ⟨t, r, rfl, htake, hdrop, ht⟩ := run_cut isPathChar s
  simp only [pathWord?, htake, hdrop] at h
  split at h
  next => cases h
  next hne =>
    obtain ⟨rfl, rfl⟩ := Prod.mk.inj (Option.some.inj h)
    exact ⟨⟨by simpa using hne, ht⟩, rfl⟩

/-- Behind a model stands an alias, if one is found, in front of the end of the text. -/
theorem of_behind {s : List Char} {name found : Option (List Char)}
    (h : behindModel? s = some (name, found)) :
    (∃ word g rest, name = some word ∧ Gap g ∧ IsWord word ∧ s = g ++ (word ++ rest) ∧
      ending? rest = some found) ∨ name = none ∧ ending? s = some found := by
  unfold behindModel? at h
  split at h
  next both hboth =>
    obtain rfl := Option.some.inj h
    obtain ⟨⟨word, rest⟩, hrow, hending⟩ := Option.bind_eq_some_iff.mp hboth
    obtain ⟨e, he, heq⟩ := Option.map_eq_some_iff.mp hending
    obtain ⟨rfl, rfl⟩ := Prod.mk.inj heq
    obtain ⟨g, hg, hword, rfl⟩ := of_rowName hrow
    exact .inl ⟨word, g, rest, rfl, hg, hword, rfl, he⟩
  next =>
    obtain ⟨e, he, heq⟩ := Option.map_eq_some_iff.mp h
    obtain ⟨rfl, rfl⟩ := Prod.mk.inj heq
    exact .inr ⟨rfl, he⟩

theorem behind_reads {s : List Char} {name found : Option (List Char)}
    (h : behindModel? s = some (name, found)) :
    ∃ a e, s = a ++ e ∧ Alias (name.getD defaultName) a ∧
      Reads (EndForm Operand.Accepted (name.getD defaultName) · e)
        (readConditions (name.getD defaultName) found) := by
  obtain ⟨word, g, rest, rfl, hg, hword, rfl, he⟩ | ⟨rfl, he⟩ := of_behind h
  · exact ⟨g ++ word, rest, by simp, .given hg hword, ending_reads he word⟩
  · exact ⟨[], s, rfl, .omitted, ending_reads he defaultName⟩

theorem of_clauses {s : List Char} {c : Clauses} (h : Clauses.parse? s = some c) :
    IsPath c.projection ∧ IsPath c.model ∧ ∃ lead k g g' k' g'' rest, Blanks lead ∧
      Letters "select" k ∧ Gap g ∧ Gap g' ∧ Keyword "from" k' ∧ Gap g'' ∧
      behindModel? rest = some (c.rowName, c.conditions) ∧
      s = lead ++ (k ++ (g ++ (c.projection ++ (g' ++ k' ++ g'' ++ (c.model ++ rest))))) := by
  obtain ⟨lead, s₁, rfl, -, hblank, hlead⟩ := run_cut isBlank s
  simp only [Clauses.parse?, trimLeft, hblank, Option.bind_eq_bind, Option.bind_eq_some_iff] at h
  obtain ⟨s₂, ⟨s₃, hselect, hgap⟩, ⟨p, s₄⟩, hprojection, s₅, hfrom, ⟨m, rest⟩, hmodel,
    ⟨name, found⟩, hbehind, hc⟩ := h
  obtain rfl := Option.some.inj hc
  obtain ⟨k, hk, rfl⟩ := of_afterKeyword hselect
  obtain ⟨g, hg, -, rfl⟩ := of_afterBlank hgap
  obtain ⟨hp, rfl⟩ := of_pathWord hprojection
  obtain ⟨g', k', g'', hg', hk', hg'', -, rfl⟩ := of_afterSpacedKeyword (by decide) hfrom
  obtain ⟨hm, rfl⟩ := of_pathWord hmodel
  exact ⟨hp, hm, lead, k, g, g', k', g'', rest, hlead, hk, hg, hg', hk', hg'', hbehind, rfl⟩

theorem select_reads (text : String) :
    Reads (·.Form Operand.Accepted text.toList) (Select.parse text) := by
  rw [Select.parse_eq]
  split
  next => exact .invalid _
  next p model name found hclauses =>
    obtain ⟨hp, hm, lead, k, g, g', k', g'', rest, hlead, hk, hg, hg', hk', hg'', hbehind, htext⟩ :=
      of_clauses hclauses
    obtain ⟨a, e, rfl, ha, hread⟩ := behind_reads hbehind
    split
    next => exact .invalid _
    next path hpath =>
      rw [htext]
      exact hread.map fun cs hcs =>
        .intro hlead hk hg hp (of_projectionPath hpath) hg' hk' hg'' hm ha hcs

theorem filter_reads (query : Query) :
    Reads (fun q => q.model = query.model ∧ q.projection = [] ∧
        FilterForm Operand.Accepted q.conditions (query.filter.getD "").toList)
      (Select.ofQuery query) := by
  obtain ⟨w, v, hw, hv, -, hfilter⟩ := blanks_around (query.filter.getD "").toList
  simp only [Select.ofQuery]
  split
  next hempty =>
    rw [List.isEmpty_iff.mp hempty] at hfilter
    refine .ok ⟨rfl, rfl, ?_⟩
    rw [hfilter, List.append_nil]
    exact .none fun c hc => (List.mem_append.mp hc).elim (hw c) (hv c)
  next =>
    refine (conditions_reads defaultName _).map fun cs hcs => ⟨rfl, rfl, ?_⟩
    rw [hfilter]
    exact .given hw (trim_trim _ ▸ hcs) hv

def Overquoting (cs : List Condition) (s : List Char) : Prop :=
  ∃ c ∈ cs, ∃ t, t <:+: s ∧ c.operand.Overquoted t

theorem Overquoting.mono {cs ds : List Condition} {s s' : List Char} (h : Overquoting cs s)
    (hcs : cs ⊆ ds) (hs : s <:+: s') : Overquoting ds s' := by
  obtain ⟨c, hc, t, ht, hover⟩ := h
  exact ⟨c, hcs hc, t, ht.trans hs, hover⟩

variable {rowName s : List Char} {c : Condition} {cs : List Condition}

theorem Condition.Form.proper_or (h : c.Form Operand.Accepted rowName s) :
    c.Form Operand.Proper rowName s ∨ Overquoting [c] s := by
  obtain @⟨path, w, w', v, t, v', operand, negated, hw, hpath, hw', hv, ht | ht, hv'⟩ := h
  · exact .inl (.intro negated hw hpath hw' hv ht hv')
  · refine .inr ⟨_, List.mem_singleton_self _, t, ?_, ht⟩
    exact ⟨w ++ (rowName ++ '.' :: (path ++ (w' ++ (operatorText negated ++ v)))), v', by simp⟩

theorem ConjunctionForm.proper_or (h : ConjunctionForm Operand.Accepted rowName cs s) :
    ConjunctionForm Operand.Proper rowName cs s ∨ Overquoting cs s := by
  induction h with
  | one hc => exact hc.proper_or.imp_left .one
  | @cons c cs s t s' hc ht _ ih =>
    obtain hproper | hover := hc.proper_or
    · obtain hs | hover := ih
      · exact .inl (.cons hproper ht hs)
      · have hbehind : s' <:+ s ++ (t ++ s') := ⟨s ++ t, by simp⟩
        exact .inr (hover.mono (List.subset_cons_self c cs) hbehind.isInfix)
    · have hfront : s <:+: s ++ (t ++ s') := (List.prefix_append s _).isInfix
      exact .inr (hover.mono (by simp) hfront)

theorem EndForm.proper_or (h : EndForm Operand.Accepted rowName cs s) :
    EndForm Operand.Proper rowName cs s ∨ Overquoting cs s := by
  cases h with
  | @given _ g k g' s w hg hk hg' hs hw =>
    obtain hproper | hover := hs.proper_or
    · exact .inl (.given hg hk hg' hproper hw)
    · exact .inr (hover.mono (List.Subset.refl cs) ⟨g ++ k ++ g', w, by simp⟩)
  | none hw => exact .inl (.none hw)

theorem Select.Form.proper_or {q : Select} (h : q.Form Operand.Accepted s) :
    q.Form Operand.Proper s ∨ Overquoting q.conditions s := by
  obtain ⟨hlead, hk, hg, hp, hpath, hg', hk', hg'', hm, ha, he⟩ := h
  obtain hproper | hover := he.proper_or
  · exact .inl (.intro hlead hk hg hp hpath hg' hk' hg'' hm ha hproper)
  · refine .inr (hover.mono (List.Subset.refl _) (List.IsSuffix.isInfix ?_))
    simp only [← List.append_assoc]
    exact List.suffix_append _ _

theorem FilterForm.proper_or (h : FilterForm Operand.Accepted cs s) :
    FilterForm Operand.Proper cs s ∨ Overquoting cs s := by
  cases h with
  | @given _ w s v hw hs hv =>
    obtain hproper | hover := hs.proper_or
    · exact .inl (.given hw hproper hv)
    · exact .inr (hover.mono (List.Subset.refl cs) ⟨w, v, rfl⟩)
  | none hw => exact .inl (.none hw)

/-- Every text, and every filter of a query, is refused as invalid, or is in the dialect, or is
clauses and conditions between `AND`s with at least one operand between quotes that has its own
quote inside. For an operand is accepted just where it is in the dialect or has its own quote
inside. -/
theorem queries_accepted_in_form (text : String) (query : Query) :
    Reads (fun q => q.Form Operand.Proper text.toList ∨
        q.Form Operand.Accepted text.toList ∧ Overquoting q.conditions text.toList)
      (Select.parse text) ∧
    Reads (fun q => q.model = query.model ∧ q.projection = [] ∧
        (FilterForm Operand.Proper q.conditions (query.filter.getD "").toList ∨
          FilterForm Operand.Accepted q.conditions (query.filter.getD "").toList ∧
            Overquoting q.conditions (query.filter.getD "").toList))
      (Select.ofQuery query) ∧
    ∀ o s, Operand.parse s = .ok o ↔ Operand.Proper o s ∨ Operand.Overquoted o s := by
  refine ⟨?_, ?_, fun _ _ => operand_accepted_iff⟩
  · exact (select_reads text).mono fun q hq => hq.proper_or.imp_right fun hover => ⟨hq, hover⟩
  · exact (filter_reads query).mono fun q ⟨hmodel, hprojection, hq⟩ =>
      ⟨hmodel, hprojection, hq.proper_or.imp_right fun hover => ⟨hq, hover⟩⟩

/-- Two comparisons joined by `OR` are accepted as one, of a field with the text from the first
quote to the last. -/
theorem disjunction_accepted :
    Select.parse "SELECT self FROM M self WHERE self.a = 'x' OR self.b = 'y'" =
      .ok ⟨"M", [], [⟨["a"], false, .literal (.string "x' OR self.b = 'y")⟩]⟩ := by
  let conditions := "self.a = 'x' OR self.b = 'y'".toList
  have hclauses :
      Clauses.parse? "SELECT self FROM M self WHERE self.a = 'x' OR self.b = 'y'".toList =
      some ⟨defaultName, ['M'], some defaultName, some conditions⟩ := rfl
  have hone : conjuncts (trim conditions) = [conditions] :=
    conjuncts_free (s := conditions) (by decide)
  have hread : readConditions defaultName (some conditions) =
      .ok [⟨["a"], false, .literal (.string "x' OR self.b = 'y")⟩] := by
    rw [readConditions, Condition.parseAll, hone]
    rfl
  rw [Select.parse_eq, hclauses]
  simp only [Option.getD_some, hread]
  rfl

end ActionDispatch.Query
