import ActionDispatch.Proofs.Script.Phrases

/-!
# Reading what is printed

Every tree that can be written is read back from each of its texts: its words determine it, and
neither an earlier alternative nor an operator of another level takes any of them away. Shown one
constructor after the other, for a tree in front of anything that may follow it.
-/

set_option autoImplicit false

namespace ActionDispatch.Script
open Text

theorem separated_words (e : Expr) (rest : List Expr) :
    [[',']].intercalate (wordsOfEach (e :: rest)) = e.words ++ rest.flatMap ([','] :: ·.words) := by
  induction rest generalizing e with
  | nil => simp [wordsOfEach, List.intercalate]
  | cons e' rest ih =>
    have hrest := ih e'
    simp only [wordsOfEach, List.intercalate, List.intersperse_cons_cons,
      List.flatten_cons] at hrest ⊢
    rw [hrest]
    simp

theorem item_words_le {e : Expr} {es : List Expr} (he : e ∈ es) :
    e.words.length ≤ ([[',']].intercalate (wordsOfEach es)).length := by
  cases es with
  | nil => simp at he
  | cons d rest =>
    rw [separated_words, List.length_append]
    rcases List.mem_cons.mp he with rfl | he
    · omega
    · have hmem : [','] :: e.words ∈ rest.map ([','] :: ·.words) := List.mem_map_of_mem he
      have hle := (List.sublist_flatten_of_mem hmem).length_le
      rw [← List.flatMap_def, List.length_cons] at hle
      omega

theorem items_length_le (es : List Expr) :
    es.length ≤ (es.flatMap ([','] :: ·.words)).length := by
  induction es with
  | nil => simp
  | cons e es ih =>
    simp only [List.flatMap_cons, List.length_append, List.length_cons]
    omega

/-- An item ends in front of the next comma or of the bracket that closes the list. -/
theorem items_stopped (es : List Expr) {t : Word} {ts : List Word} (ht : t = [')'] ∨ t = [']']) :
    Stopped 6 (es.flatMap ([','] :: ·.words) ++ t :: ts) := by
  cases es with
  | nil => rcases ht with rfl | rfl <;> simp [Stopped, stops]
  | cons => simp [Stopped, stops]

theorem operand_refused {levels : Nat} {t : Word} {ts : List Word} {s : List Char}
    (ht : t = [')'] ∨ t = [']']) (h : Ahead (t :: ts) s) : expression levels s = .refuse := by
  obtain ⟨r, hs, _⟩ := ahead_cons h
  have hno : mark? "!" s = none := mark_missing "!" (by rcases ht with rfl | rfl <;> rfl) h
  have hp : ∀ nested, postfixed nested s = .refuse := by
    intro nested
    have hname : startsName ')' = false ∧ startsName ']' = false := by decide
    rcases ht with rfl | rfl <;>
      simp [postfixed, hs, primary, named, name?, hname, Reply.andThen]
  have hu : unary levels s = .refuse := by
    cases levels <;> simp [unary, unaryOver, hno, hp]
  simp [expression, binaries, chain, hu, Reply.andThen]

theorem items_from_read {levels : Nat} {es : List Expr} {t : Word} {ts : List Word}
    (ht : t = [')'] ∨ t = [']']) (hes : ∀ e ∈ es, e.writable = true ∧ Legible e)
    (hlen : ∀ e ∈ es, e.words.length ≤ levels) (steps : Nat) (s : List Char)
    (hsteps : es.length ≤ steps) (h : Ahead (es.flatMap ([','] :: ·.words) ++ t :: ts) s) :
    Accepts (itemsFrom (expression levels) steps) es (t :: ts) s := by
  induction es generalizing steps s with
  | nil =>
    refine ⟨s, ?_, h⟩
    have hno : mark? "," s = none := mark_missing "," (by rcases ht with rfl | rfl <;> rfl) h
    cases steps <;> simp [itemsFrom, hno]
  | cons e es ih =>
    cases steps with
    | zero => simp at hsteps
    | succ steps =>
      simp only [List.flatMap_cons, List.cons_append, List.append_assoc] at h
      obtain ⟨r, hm, hr⟩ := mark_found "," rfl h
      have hstop : Stopped 6 (es.flatMap ([','] :: ·.words) ++ t :: ts) := items_stopped es ht
      obtain ⟨he, hl⟩ := hes e (by simp)
      obtain ⟨r', hp, hr'⟩ := whole_read hl he (hlen e (by simp)) hstop (ahead_skip hr)
      obtain ⟨r'', hq, hr''⟩ := ih (fun d hd => hes d (by simp [hd]))
        (fun d hd => hlen d (by simp [hd])) steps r' (by simpa using hsteps) hr'
      exact ⟨r'', by simp [itemsFrom, hm, hp, hq, Reply.map, Reply.andThen], hr''⟩

theorem items_read {levels : Nat} {es : List Expr} {t : Word} {ts : List Word} {s : List Char}
    (ht : t = [')'] ∨ t = [']']) (hes : ∀ e ∈ es, e.writable = true ∧ Legible e)
    (hlen : ([[',']].intercalate (wordsOfEach es)).length ≤ levels)
    (h : Ahead ([[',']].intercalate (wordsOfEach es) ++ t :: ts) s) :
    Accepts (items (expression levels)) es (t :: ts) s := by
  have hle : ∀ e ∈ es, e.words.length ≤ levels := fun e he => Nat.le_trans (item_words_le he) hlen
  cases es with
  | nil =>
    have hno : expression levels s = .refuse := operand_refused ht h
    exact ⟨s, by simp [items, hno], h⟩
  | cons e es =>
    rw [separated_words, List.append_assoc] at h
    have hstop : Stopped 6 (es.flatMap ([','] :: ·.words) ++ t :: ts) := items_stopped es ht
    obtain ⟨he, hl⟩ := hes e (by simp)
    obtain ⟨r, hp, hr⟩ := whole_read hl he (hle e (by simp)) hstop h
    have hsteps : es.length ≤ r.length := by
      have hr := ahead_length hr
      have hf := items_length_le es
      simp only [List.length_append] at hr
      omega
    obtain ⟨r', hq, hr'⟩ := items_from_read ht (fun d hd => hes d (by simp [hd]))
      (fun d hd => hle d (by simp [hd])) r.length r hsteps hr
    exact ⟨r', by simp [items, hp, hq, Reply.map, Reply.andThen], hr'⟩

theorem arguments_read {levels : Nat} {args : List Expr} {ts : List Word} {s : List Char}
    (hargs : ∀ e ∈ args, e.writable = true ∧ Legible e)
    (hlen : ([[',']].intercalate (wordsOfEach args)).length ≤ levels)
    (h : Ahead (['('] :: [[',']].intercalate (wordsOfEach args) ++ [')'] :: ts) s) :
    Accepts (arguments (expression levels)) args ts s := by
  obtain ⟨r, hm, hr⟩ := mark_found "(" rfl h
  obtain ⟨r', hp, hr'⟩ :=
    closed_read ")" rfl (items_read (.inl rfl) hargs hlen (ahead_skip hr))
  exact ⟨r', by simpa [arguments, hm] using hp, hr'⟩

theorem literal_legible {v : Value} (hv : isWritable v = true) : Legible (.literal v) := by
  intro levels ts s _ hf h
  obtain ⟨r, hs, hr⟩ := ahead_cons h
  refine primary_arrives (r := r) ?_ hr
  rw [hs]
  exact literal_read _ hv hf hr

theorem list_legible {items : List Expr} (hitems : ∀ e ∈ items, e.writable = true ∧ Legible e) :
    Legible (.list items) := by
  intro levels ts s hlen _ h
  simp only [Expr.words, List.cons_append, List.append_assoc, List.nil_append] at h hlen
  obtain ⟨r, hs, hr⟩ := ahead_cons h
  have hlen : ([[',']].intercalate (wordsOfEach items)).length ≤ levels := by
    simp only [List.length_cons, List.length_append] at hlen
    omega
  obtain ⟨r', hp, hr'⟩ := closed_read "]" rfl (items_read (.inr rfl) hitems hlen (ahead_skip hr))
  refine primary_arrives (r := r') ?_ hr'
  rw [hs]
  simp [primary, hp, Reply.map, Reply.andThen]

/-- A name is read by the last alternative of operands. -/
theorem name_primary (nested : Parser Expr) {n : Word} (hn : isName n = true) (s : List Char) :
    primary nested (n ++ s) = named nested (n ++ s) := by
  cases n with
  | nil => simp [isName] at hn
  | cons c n =>
    simp only [isName, Bool.and_eq_true] at hn
    have hd := name_not_digit hn.1
    have hc : ∀ d ∈ ['-', '"', '\'', '[', '('], c ≠ d := by
      rintro d hd' rfl
      have hall : ['-', '"', '\'', '[', '('].all (!startsName ·) = true := by decide
      have hno : (!startsName c) = true := List.all_eq_true.mp hall c hd'
      simp_all
    simp only [List.forall_mem_cons] at hc
    simp [primary, hd, hc]

theorem named_free (nested : Parser Expr) {n : String} {s : List Char} (hn : isFreeName n = true)
    (hs : NameEnds s) : named nested (n.toList ++ s) =
      match arguments nested s with
      | .accept args rest => .accept (.call n args) rest
      | .refuse => .accept (.name n) s
      | .tooDeep => .tooDeep := by
  simp only [isFreeName, isReserved, Bool.and_eq_true, Bool.not_eq_true', Bool.or_eq_false_iff,
    beq_eq_false_iff_ne] at hn
  have hr := name_read hn.1 hs
  rw [String.ofList_toList] at hr
  cases ha : arguments nested s <;> simp [named, hr, hn, ha]

theorem behind_no_bracket {ts : List Word} {s : List Char} (hb : Behind ts) (h : Ahead ts s)
    (nested : Parser Expr) : arguments nested s = .refuse := by
  have hbars : bars ['('] ts = true := by
    cases ts with
    | nil => rfl
    | cons t ts =>
      obtain ⟨c, u, rfl, hc⟩ := behind_limits hb
      have hall : limits.all ('(' != ·) = true := by decide
      have hne : ('(' != c) = true := List.all_eq_true.mp hall c hc
      simp_all [bars, clash]
  simp [arguments, mark_missing "(" hbars h]

theorem name_legible {n : String} (hn : isFreeName n = true) : Legible (.name n) := by
  intro levels ts s _ hf h
  obtain ⟨r, hs, hr⟩ := ahead_cons h
  have hname : isName n.toList = true := by simp_all [isFreeName]
  refine primary_arrives (r := r) ?_ hr
  rw [hs, name_primary _ hname, named_free _ hn (behind_name_ends hf hr)]
  simp [behind_no_bracket hf hr]

theorem call_legible {f : String} {args : List Expr} (hn : isFreeName f = true)
    (hargs : ∀ e ∈ args, e.writable = true ∧ Legible e) : Legible (.call f args) := by
  intro levels ts s hlen _ h
  simp only [Expr.words, List.cons_append, List.append_assoc, List.nil_append] at h hlen
  obtain ⟨r, hs, hr⟩ := ahead_cons h
  have hname : isName f.toList = true := by simp_all [isFreeName]
  have hlen : ([[',']].intercalate (wordsOfEach args)).length ≤ levels := by
    simp only [List.length_cons, List.length_append] at hlen
    omega
  obtain ⟨r', hp, hr'⟩ := arguments_read hargs hlen hr
  refine primary_arrives (r := r') ?_ hr'
  rw [hs, name_primary _ hname, named_free _ hn (bracket_name_ends hr), hp]

/-- An operand and one suffix: the loop over suffixes reads the suffix and comes to the longer
operand. -/
theorem suffix_arrives {target e : Expr} {levels : Nat} {us ts : List Word} {s : List Char}
    (ht : Legible target) (hw : target.writable = true) (hus : us ≠ []) (hb : Behind (us ++ ts))
    (hlen : (target.wordsWithin 0 ++ us).length ≤ levels + 1)
    (hstep : ∀ steps r, Ahead (us ++ ts) r → ∃ r',
      suffixesFrom (expression levels) (steps + 1) target r =
        suffixesFrom (expression levels) steps e r' ∧ Ahead ts r')
    (h : Ahead (target.wordsWithin 0 ++ us ++ ts) s) : Arrives levels 0 e ts s := by
  rw [List.append_assoc] at h
  rw [List.length_append] at hlen
  have harr : Arrives levels 0 target (us ++ ts) s :=
    within_arrives ht hw (by decide) (by omega) hb h
  obtain ⟨r, steps, hp, hsteps, hr⟩ := harr
  have hpos : 0 < us.length := List.length_pos_iff.mpr hus
  rw [List.length_append] at hsteps
  obtain ⟨k, rfl⟩ : ∃ k, steps = k + 1 := ⟨steps - 1, by omega⟩
  obtain ⟨r', hs, hr'⟩ := hstep k r hr
  exact ⟨r', k, hp.trans hs, by omega, hr'⟩

theorem property_legible {target : Expr} {member : String} {safe : Bool} (ht : Legible target)
    (hw : target.writable = true) (hm : isName member.toList = true) :
    Legible (.property target member safe) := by
  intro levels ts s hlen hf h
  refine suffix_arrives ht hw (by simp) (.member safe hm) hlen ?_ h
  intro steps r hr
  obtain ⟨r', hr', hahead⟩ := member_read safe hm (fun _ => behind_name_ends hf) hr
  have hno := behind_no_bracket hf hahead (expression levels)
  exact ⟨r', by simp [suffixesFrom, hr', hno], hahead⟩

theorem index_legible {target place : Expr} (ht : Legible target) (hw : target.writable = true)
    (hp : Legible place) (hpw : place.writable = true) : Legible (.index target place) := by
  intro levels ts s hlen _ h
  have hwords : (Expr.index target place).words =
      target.wordsWithin 0 ++ (['['] :: place.words ++ [[']']]) := List.append_assoc ..
  rw [hwords] at h hlen
  refine suffix_arrives ht hw (by simp) .position hlen ?_ h
  intro steps r hr
  have hno : member? r = none := member_missing rfl rfl hr
  obtain ⟨r', hm, hr'⟩ := mark_found "[" rfl hr
  have hstop : Stopped 6 ([']'] :: ts) := by
    show [']'] ∈ stops 6
    decide
  have hwhole : Accepts (expression levels) place ([']'] :: ts) (skipSpace r') := by
    refine whole_read hp hpw ?_ hstop (ahead_skip (by simpa using hr'))
    simp only [List.length_append, List.length_cons] at hlen
    omega
  obtain ⟨r'', hclose, hr''⟩ := closed_read "]" rfl hwhole
  have hpos : position (expression levels) r = .accept place r'' := by simp [position, hm, hclose]
  exact ⟨r'', by simp [suffixesFrom, hno, hpos], hr''⟩

theorem invoke_legible {target : Expr} {method : String} {args : List Expr} {safe : Bool}
    (ht : Legible target) (hw : target.writable = true) (hm : isName method.toList = true)
    (hargs : ∀ e ∈ args, e.writable = true ∧ Legible e) :
    Legible (.invoke target method args safe) := by
  intro levels ts s hlen _ h
  have hwords : (Expr.invoke target method args safe).words = target.wordsWithin 0 ++
      (point safe :: method.toList :: ['('] :: [[',']].intercalate (wordsOfEach args) ++
        [[')']]) := List.append_assoc ..
  rw [hwords] at h hlen
  refine suffix_arrives ht hw (by simp) (.member safe hm) hlen ?_ h
  intro steps r hr
  obtain ⟨r', hr', hahead⟩ := member_read safe hm (fun _ => bracket_name_ends) hr
  have hargs : Accepts (arguments (expression levels)) args ts r' := by
    refine arguments_read hargs ?_ (by simpa using hahead)
    simp only [List.length_append, List.length_cons] at hlen
    omega
  obtain ⟨r'', hq, hr''⟩ := hargs
  exact ⟨r'', by simp [suffixesFrom, hr', hq], hr''⟩

theorem not_legible {operand : Expr} (hl : Legible operand) (hw : operand.writable = true) :
    Legible (.not operand) := by
  intro levels ts s hlen hf h
  have hlen : (operand.wordsWithin 1).length ≤ levels := Nat.le_of_succ_le_succ hlen
  have hpos := within_positive operand hw 1
  obtain ⟨k, rfl⟩ : ∃ k, levels = k + 1 := ⟨levels - 1, by omega⟩
  obtain ⟨r, hm, hr⟩ := mark_found "!" rfl h
  -- every sign is looser than `!`, so what ends an operand ends a negated one
  have hstop : Stopped 1 ts := by
    cases ts with
    | nil => trivial
    | cons t ts => exact (by decide : ∀ t ∈ stops 0, t ∈ stops 1) t hf
  have harr : Arrives k 1 operand ts (skipSpace r) :=
    within_arrives hl hw (by decide) hlen hf (ahead_skip hr)
  obtain ⟨r', ha, hr'⟩ := arrives_accepts (by decide) hstop harr
  refine ⟨r', ts.length, ?_, Nat.le_refl _, hr'⟩
  show unaryOver (atLevel k 1) (expression (k + 1)) s = .accept (.not operand) r'
  simp [unaryOver, hm, ha, Reply.map, Reply.andThen]

theorem joined_arrives {n : Nat} {left right : Expr} {join : Joint} {sign : Word} (hn : n ≤ 4)
    (hl : Legible left) (hlw : left.writable = true) (hr : Legible right)
    (hrw : right.writable = true) (hstop : sign ∈ stops (n + 1))
    (hsign : ∀ ts s, Ahead (sign :: ts) s → ∃ r, jointOf n s = some (join, r) ∧ Ahead ts r)
    {levels : Nat} {ts : List Word} {s : List Char}
    (hlen : (left.wordsWithin (n + 2) ++ sign :: right.wordsWithin (n + 1)).length ≤ levels + 1)
    (hf : Stopped (n + 1) ts)
    (h : Ahead (left.wordsWithin (n + 2) ++ sign :: right.wordsWithin (n + 1) ++ ts) s) :
    Arrives levels (n + 2) (join left right) ts s := by
  simp only [List.length_append, List.length_cons] at hlen
  rw [List.append_assoc] at h
  refine join_arrives (fun r => hsign _ r) (within_arrives hl hlw (by omega) (by omega) hstop h) ?_
  intro r hahead
  exact arrives_accepts (by omega) hf
    (within_arrives hr hrw (by omega) (by omega) (follows_stopped hf) hahead)

theorem binary_legible {op : BinaryOp} {left right : Expr} (hl : Legible left)
    (hlw : left.writable = true) (hr : Legible right) (hrw : right.writable = true) :
    Legible (.binary op left right) := by
  intro levels ts s hlen hf h
  have hsign : ∀ ts s, Ahead (op.sign.toList :: ts) s →
      ∃ r, jointOf (op.looseness - 2) s = some (.binary op, r) ∧ Ahead ts r :=
    fun _ _ => sign_read op
  have hstop : op.sign.toList ∈ stops (op.looseness - 1) := by cases op <;> decide
  obtain ⟨n, hn⟩ : ∃ n, op.looseness = n + 2 :=
    ⟨op.looseness - 2, by have := sign_looseness op; omega⟩
  have hle := (sign_looseness op).2
  simp only [Expr.words, Expr.looseness, hn] at h hlen hf hsign hstop ⊢
  exact joined_arrives (by omega) hl hlw hr hrw hstop hsign hlen hf h

theorem elvis_legible {left right : Expr} (hl : Legible left) (hlw : left.writable = true)
    (hr : Legible right) (hrw : right.writable = true) : Legible (.elvis left right) := by
  intro levels ts s hlen hf h
  simp only [Expr.words, Expr.looseness] at h hlen hf ⊢
  exact joined_arrives (n := 4) (by decide) hl hlw hr hrw (by decide)
    (fun _ _ => joint_found "?:" .elvis rfl) hlen hf h

theorem writable_legible (e : Expr) (he : e.writable = true) : Legible e := by
  refine writable_induction ⟨?literal, ?list, ?name, ?property, ?index, ?call, ?invoke, ?not,
    ?binary, ?elvis⟩ e he
  case literal => exact fun v hv => literal_legible hv
  case list => exact fun items ih => list_legible ih
  case name => exact fun n hn => name_legible hn
  case property => exact fun target member safe ht hm ih => property_legible ih ht hm
  case index => exact fun target position ht hp iht ihp => index_legible iht ht ihp hp
  case call => exact fun f args hf ih => call_legible hf ih
  case invoke => exact fun target method args safe ht hm iha iht => invoke_legible iht ht hm iha
  case not => exact fun operand h ih => not_legible ih h
  case binary => exact fun op left right hl hr ihl ihr => binary_legible ihl hl ihr hr
  case elvis => exact fun left right hl hr ihl ihr => elvis_legible ihl hl ihr hr

theorem opens_solid {t : Word} (h : opensOperand t = true) : isSolid t = true := by
  cases t with
  | nil => simp [opensOperand] at h
  | cons c t => simp_all [opensOperand, isSolid]

def AllSolid (ts : List Word) : Prop := ∀ t ∈ ts, isSolid t = true

theorem all_solid_append {ts us : List Word} : AllSolid (ts ++ us) ↔ AllSolid ts ∧ AllSolid us :=
  List.forall_mem_append

theorem all_solid_cons {t : Word} {ts : List Word} :
    AllSolid (t :: ts) ↔ isSolid t = true ∧ AllSolid ts :=
  List.forall_mem_cons

theorem all_solid_nil : AllSolid [] := by simp [AllSolid]

theorem enclose_solid {ws : List Word} (h : AllSolid ws) (allowed looseness : Nat) :
    AllSolid (enclose allowed looseness ws) := by
  have hbrackets : isSolid ['('] = true ∧ isSolid [')'] = true := by decide
  unfold enclose
  split <;> simp_all [all_solid_append, all_solid_cons, all_solid_nil]

theorem separated_solid {es : List Expr} (h : ∀ e ∈ es, e.writable = true ∧ AllSolid e.words) :
    AllSolid ([[',']].intercalate (wordsOfEach es)) := by
  have hcomma : isSolid [','] = true := by decide
  cases es with
  | nil => exact all_solid_nil
  | cons e es =>
    rw [separated_words, all_solid_append]
    refine ⟨(h e (by simp)).2, ?_⟩
    intro t ht
    obtain ⟨d, hd, ht⟩ := List.mem_flatMap.mp ht
    exact all_solid_cons.mpr ⟨hcomma, (h d (by simp [hd])).2⟩ t ht

theorem words_solid (e : Expr) (he : e.writable = true) : AllSolid e.words := by
  have hmarks : isSolid ['['] = true ∧ isSolid [']'] = true ∧ isSolid ['('] = true ∧
      isSolid [')'] = true ∧ isSolid ['!'] = true ∧ isSolid ['?', ':'] = true := by decide
  have hpoint : ∀ safe, isSolid (point safe) = true := by decide
  have hsign : ∀ op : BinaryOp, isSolid op.sign.toList = true := by
    intro op
    cases op <;> decide
  have hfree : ∀ n, isFreeName n = true → isSolid n.toList = true := by
    intro n hn
    exact name_solid (by simp_all [isFreeName])
  refine writable_induction (P := fun e => AllSolid e.words) ⟨?literal, ?list, ?name, ?property,
    ?index, ?call, ?invoke, ?not, ?binary, ?elvis⟩ e he
  case literal =>
    intro v hv
    simp [Expr.words, all_solid_cons, all_solid_nil, opens_solid (literal_opens hv)]
  case list =>
    intro items ih
    simp [Expr.words, all_solid_append, all_solid_cons, all_solid_nil, separated_solid ih, hmarks]
  case name =>
    intro n hn
    simp [Expr.words, all_solid_cons, all_solid_nil, hfree n hn]
  case property =>
    intro target member safe _ hm ih
    simp [Expr.words, all_solid_append, all_solid_cons, all_solid_nil, enclose_solid ih, hpoint,
      name_solid hm]
  case index =>
    intro target position _ _ iht ihp
    simp [Expr.words, all_solid_append, all_solid_cons, all_solid_nil, enclose_solid iht,
      ihp, hmarks]
  case call =>
    intro function args hf ih
    simp [Expr.words, all_solid_append, all_solid_cons, all_solid_nil, hfree function hf,
      separated_solid ih, hmarks]
  case invoke =>
    intro target method args safe _ hm iha iht
    simp [Expr.words, all_solid_append, all_solid_cons, all_solid_nil, enclose_solid iht, hpoint,
      name_solid hm, separated_solid iha, hmarks]
  case not =>
    intro operand _ ih
    simp [Expr.words, all_solid_cons, enclose_solid ih, hmarks]
  case binary =>
    intro op left right _ _ ihl ihr
    simp [Expr.words, all_solid_append, all_solid_cons, enclose_solid ihl, enclose_solid ihr, hsign]
  case elvis =>
    intro left right _ _ ihl ihr
    simp [Expr.words, all_solid_append, all_solid_cons, enclose_solid ihl,
      enclose_solid ihr, hmarks]

theorem spelled_accepted {e : Expr} (he : e.writable = true) {s : List Char}
    (ht : Spells e.words s) : Accepts (expression s.length) e [] (skipSpace s) := by
  have hahead : Ahead e.words s := ⟨words_solid e he, ht⟩
  exact whole_read (writable_legible e he) he (ahead_length hahead) trivial
    (by simpa using ahead_skip hahead)

theorem accepted_parses {e : Expr} {text : String}
    (h : Accepts (expression text.toList.length) e [] (skipSpace text.toList))
    (hn : nesting text.toList ≤ maxNesting) : parse text = .ok e := by
  obtain ⟨r, hp, hr⟩ := h
  have hdeep : ¬maxNesting < nesting text.toList := by omega
  simp [parse, hdeep, parseWithin, hp, ahead_nil hr]

/-- A tree is read back from each text that spells its words, with parentheses only where they are
needed and any white space between the words, as far as the text is not nested too deeply. -/
theorem spelled_tree_parses (e : Expr) (he : e.writable = true) (text : String)
    (ht : Spells e.words text.toList) (hn : nesting text.toList ≤ maxNesting) :
    parse text = .ok e :=
  accepted_parses (spelled_accepted he ht) hn

/-- Negation in front of `==`, a member named like a literal, a string with a quote in it, and
parentheses around the target of a call. -/
theorem spelled_tree_parses_mixed :
    parse " !a ?.true\n==['it\\'s',-5]?:(b?:null).f()\t" = .ok
      (.elvis
        (.binary .eq (.not (.property (.name "a") "true" true))
          (.list [.literal (.string "it's"), .literal (.int (-5))]))
        (.invoke (.elvis (.name "b") (.literal .null)) "f" [] false)) := by
  refine spelled_tree_parses _ (by decide) _ ?_ (by decide +kernel)
  exact spells_gaps [' ']
    [(['!'], []), (['a'], [' ']), (['?', '.'], []), (['t', 'r', 'u', 'e'], ['\n']),
      (['=', '='], []), (['['], []), ("'it\\'s'".toList, []), ([','], []), (['-', '5'], []),
      ([']'], []), (['?', ':'], []), (['('], []), (['b'], []), (['?', ':'], []),
      (['n', 'u', 'l', 'l'], []), ([')'], []), (['.'], []), (['f'], []), (['('], []),
      ([')'], ['\t'])]
    (by decide) (by decide)

end ActionDispatch.Script
