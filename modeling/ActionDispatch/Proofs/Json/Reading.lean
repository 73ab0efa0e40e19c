import ActionDispatch.Json.Reader
import ActionDispatch.Json.Writer
import ActionDispatch.Proofs.Decimal.Whole
import ActionDispatch.Proofs.Json.Decoding
import ActionDispatch.Proofs.Text.Runs

/-!
# Written JSON read back

The text of a tree is read as the node of the tree. Strings and whole numbers of 64 bits come back
in any case; a float does if its own text is read as this float.
-/

set_option autoImplicit false

namespace ActionDispatch.Json
open Decimal Text

def carriesOn (c : Char) : Bool :=
  c.isDigit || c = '.' || c = 'e' || c = 'E'

variable {s rest r digits : List Char} {node : Node} {negative : Bool} {fuel : Nat}

theorem apart_digits (h : EndsRun carriesOn rest) : EndsRun Char.isDigit rest := by
  cases rest with
  | nil => rfl
  | cons c rest => simp_all [EndsRun, carriesOn]

theorem digits_within (hrest : EndsRun carriesOn rest) (h : digits? s = some (digits, r)) :
    digits? (s ++ rest) = some (digits, r ++ rest) := by
  obtain ⟨htake, hdrop⟩ := run_within s (apart_digits hrest)
  unfold digits? at h ⊢
  simp only [htake, hdrop] at h ⊢
  split at h
  next => cases h
  next hne =>
    cases h
    rw [if_neg hne]

theorem whole_within (hrest : EndsRun carriesOn rest) (h : whole? s = some (digits, r)) :
    whole? (s ++ rest) = some (digits, r ++ rest) := by
  unfold whole? at h ⊢
  obtain ⟨⟨ds, r'⟩, hd, hzero⟩ := Option.bind_eq_some_iff.mp h
  rw [digits_within hrest hd]
  simp only [Option.bind_eq_bind, Option.bind_some] at hzero ⊢
  split at hzero
  next => cases hzero
  next hne =>
    cases hzero
    rw [if_neg hne]

theorem fraction_within {fraction : Option (List Char)} (hrest : EndsRun carriesOn rest)
    (h : fraction? s = some (fraction, r)) :
    fraction? (s ++ rest) = some (fraction, r ++ rest) := by
  have hnone : ∀ {s : List Char}, s.head? ≠ some '.' → fraction? s = some (none, s) := by
    intro s hs
    unfold fraction?
    split
    next => exact absurd rfl hs
    next => rfl
  cases s with
  | nil =>
    cases h
    refine hnone fun hpoint => ?_
    rw [List.nil_append] at hpoint
    simp [EndsRun, hpoint, carriesOn] at hrest
  | cons c s =>
    by_cases hc : c = '.'
    · subst hc
      obtain ⟨⟨ds, r'⟩, hd, heq⟩ := Option.map_eq_some_iff.mp h
      cases heq
      rw [List.cons_append, fraction?, digits_within hrest hd]
      rfl
    · rw [hnone (by simpa using hc)] at h
      cases h
      exact hnone (by simpa using hc)

theorem exponentDigits_within {exponent : Option Int} (hrest : EndsRun carriesOn rest)
    (h : exponentDigits? negative s = some (exponent, r)) :
    exponentDigits? negative (s ++ rest) = some (exponent, r ++ rest) := by
  obtain ⟨⟨ds, r'⟩, hd, heq⟩ := Option.map_eq_some_iff.mp h
  cases heq
  rw [exponentDigits?, digits_within hrest hd]
  rfl

theorem exponent_within {exponent : Option Int} (hrest : EndsRun carriesOn rest)
    (h : exponentPart? s = some (exponent, r)) :
    exponentPart? (s ++ rest) = some (exponent, r ++ rest) := by
  have hnone : ∀ {s : List Char}, s.head? ≠ some 'e' → s.head? ≠ some 'E' →
      exponentPart? s = some (none, s) := by
    intro s he hE
    unfold exponentPart?
    split
    next => rfl
    next => simp_all
  cases s with
  | nil =>
    cases h
    refine hnone ?_ ?_ <;> rw [List.nil_append] <;> intro hhead <;>
      simp [EndsRun, hhead, carriesOn] at hrest
  | cons c s =>
    rw [List.cons_append]
    by_cases hc : c = 'e' ∨ c = 'E'
    · cases s with
      | nil => rcases hc with rfl | rfl <;> cases h
      | cons d s =>
        by_cases hminus : d = '-'
        · subst hminus
          rcases hc with rfl | rfl <;> exact exponentDigits_within hrest h
        · by_cases hplus : d = '+'
          · subst hplus
            rcases hc with rfl | rfl <;> exact exponentDigits_within hrest h
          · have hunsigned : ∀ s, exponentPart? (c :: d :: s) = exponentDigits? false (d :: s) := by
              intro s
              rcases hc with rfl | rfl <;> simp [exponentPart?, hminus, hplus]
            rw [hunsigned] at h
            exact (hunsigned _).trans (exponentDigits_within hrest h)
    · obtain ⟨he, hE⟩ := not_or.mp hc
      rw [hnone (by simpa using he) (by simpa using hE)] at h
      cases h
      exact hnone (by simpa using he) (by simpa using hE)

theorem number_within (hrest : EndsRun carriesOn rest) (h : number? negative s = some (node, r)) :
    number? negative (s ++ rest) = some (node, r ++ rest) := by
  unfold number? at h ⊢
  obtain ⟨⟨whole, r₁⟩, hw, h⟩ := Option.bind_eq_some_iff.mp h
  obtain ⟨⟨fraction, r₂⟩, hf, h⟩ := Option.bind_eq_some_iff.mp h
  obtain ⟨⟨exponent, r₃⟩, he, h⟩ := Option.bind_eq_some_iff.mp h
  cases h
  rw [whole_within hrest hw]
  simp only [Option.bind_eq_bind, Option.bind_some]
  rw [fraction_within hrest hf]
  simp only [Option.bind_some]
  rw [exponent_within hrest he]
  rfl

theorem digitsFrom_grows (n : Nat) (digits : List Char) : n ≤ digitsFrom n digits := by
  induction digits generalizing n with
  | nil => exact Nat.le_refl n
  | cons d digits ih =>
    have hstep := ih (10 * n + (d.toNat - '0'.toNat))
    have hcons : digitsFrom n (d :: digits) = digitsFrom (10 * n + (d.toNat - '0'.toNat)) digits :=
      rfl
    omega

theorem absorb_all {n : Nat} (h : digitsFrom n digits < wordLimit) :
    absorb n digits = (digitsFrom n digits, []) := by
  induction digits generalizing n with
  | nil => rfl
  | cons d digits ih =>
    have hcons : digitsFrom n (d :: digits) = digitsFrom (digitsFrom n [d]) digits := rfl
    have hgrows := digitsFrom_grows (digitsFrom n [d]) digits
    rw [hcons] at h ⊢
    rw [absorb, if_pos (by omega), ih h]

theorem leading_zero {n : Nat} (h : (Nat.toDigits 10 n).head? = some '0') : n = 0 := by
  induction n using Nat.strongRecOn with
  | ind n ih =>
    by_cases hn : n < 10
    · rw [Nat.toDigits_of_lt_base hn] at h
      have hdigit : ∀ k < 10, Nat.digitChar k = '0' → k = 0 := by decide
      exact hdigit n hn (by simpa using h)
    · have hsplit : Nat.toDigits 10 n = Nat.toDigits 10 (n / 10) ++ Nat.toDigits 10 (n % 10) := by
        rw [Nat.toDigits_append_toDigits (by decide) (by omega) (by omega), Nat.div_add_mod]
      rw [hsplit, List.head?_append_of_ne_nil _ Nat.toDigits_ne_nil] at h
      have := ih (n / 10) (by omega) h
      omega

theorem whole_digits (n : Nat) : whole? (Nat.toDigits 10 n) = some (Nat.toDigits 10 n, []) := by
  obtain ⟨htake, hdrop⟩ := run_split (s := []) (digits_are_digits n) rfl
  rw [List.append_nil] at htake hdrop
  have hdigits : digits? (Nat.toDigits 10 n) = some (Nat.toDigits 10 n, []) := by
    simp [digits?, htake, hdrop, Nat.toDigits_ne_nil]
  rw [whole?, hdigits]
  simp only [Option.bind_eq_bind, Option.bind_some]
  rw [if_neg]
  rintro ⟨hzero, hlength⟩
  obtain rfl := leading_zero hzero
  simp at hlength

def ReadsAs (text : String) (node : Node) : Prop :=
  ∃ negative digits, text.toList = (if negative then '-' :: digits else digits) ∧
    number? negative digits = some (node, [])

theorem natural_reads (n : Nat) (negative : Bool) :
    number? negative (Nat.toDigits 10 n) =
      some (numberNode negative (Nat.toDigits 10 n) none none, []) := by
  rw [number?, whole_digits]
  rfl

theorem integer_reads {n : Int} (hl : -(signedLimit : Int) ≤ n) (hu : n < (wordLimit : Int)) :
    ReadsAs (toString n) (.int n) := by
  have hvalue : ∀ k : Nat, digitsFrom 0 (Nat.toDigits 10 k) = k :=
    fun _ => Nat.ofDigitChars_ten_toDigits
  by_cases h : 0 ≤ n
  · obtain ⟨k, rfl⟩ := Int.eq_ofNat_of_zero_le h
    have hk : digitsFrom 0 (Nat.toDigits 10 k) < wordLimit := by rw [hvalue]; omega
    refine ⟨false, Nat.toDigits 10 k, by simp [Int.toString_eq_repr, Int.repr_eq_if], ?_⟩
    rw [natural_reads]
    simp [numberNode, absorb_all hk, hvalue]
  · obtain ⟨k, rfl⟩ : ∃ k : Nat, n = -(k : Int) := ⟨(-n).toNat, by omega⟩
    have hsmall : signedLimit < wordLimit := by decide
    have hk : digitsFrom 0 (Nat.toDigits 10 k) < wordLimit := by rw [hvalue]; omega
    have hbounds : ¬(k = 0 ∨ signedLimit < k) := by omega
    have hk' : k ≠ 0 := fun hzero => hbounds (.inl hzero)
    refine ⟨true, Nat.toDigits 10 k, by simp [Int.toString_eq_repr, Int.repr_eq_if, hk'], ?_⟩
    rw [natural_reads]
    simp [numberNode, absorb_all hk, hvalue, hbounds]

def piece (c : Char) : Piece :=
  if c.toNat < 32 ∧ c ∉ ['\x08', '\x0c', '\n', '\r', '\t'] then .unit c.toNat else .char c

theorem control_unit : ∀ n < 32,
    unit? '0' '0' (if n < 16 then '0' else '1') (Nat.digitChar (n % 16)) = some n := by
  decide

theorem char_read (c : Char) (s : List Char) :
    pieces? (escapeChar c ++ s) = (pieces? s).map fun (pieces, rest) =>
      (piece c :: pieces, rest) := by
  by_cases hmark : c ∈ ['"', '\\', '\x08', '\x0c', '\n', '\r', '\t']
  · simp only [List.mem_cons, List.not_mem_nil, or_false] at hmark
    rcases hmark with rfl | rfl | rfl | rfl | rfl | rfl | rfl <;> cases h : pieces? s <;>
      simp [escapeChar, pieces?, simpleEscape?, piece, h]
  · simp only [List.mem_cons, List.not_mem_nil, or_false, not_or] at hmark
    by_cases hcontrol : c.toNat < 32
    · have hunit := control_unit c.toNat hcontrol
      cases h : pieces? s <;> simp [escapeChar, hmark, hcontrol, pieces?, hunit, piece, h]
    · have hplain : escapeChar c = [c] := by simp [escapeChar, hmark, hcontrol]
      have hpiece : piece c = .char c := by simp [piece, hcontrol]
      have hstands : ¬(c.toNat < 32 ∨ c = '\\') := by simp [hcontrol, hmark]
      rw [hplain, hpiece, List.singleton_append, pieces?.eq_def]
      split
      case h_5 heq =>
        cases heq
        rw [if_neg hstands]
      all_goals simp_all

theorem unit_joined {code : Nat} (h : code < 0xD800) (pieces : List Piece) :
    joinPieces (.unit code :: pieces) = (joinPieces pieces).map (Char.ofNat code :: ·) := by
  have hhigh : ¬(0xD800 ≤ code ∧ code < 0xDC00) := by omega
  have hlow : ¬(0xDC00 ≤ code ∧ code < 0xE000) := by omega
  have hpair : ¬(0xD800 ≤ code ∧ code < 0xE000) := by omega
  cases pieces with
  | nil => simp [joinPieces, hpair]
  | cons first rest =>
    cases first with
    | char c => simp [joinPieces, hpair]
    | unit low => simp [joinPieces, hhigh, hlow]

theorem pieces_joined (s : List Char) : joinPieces (s.map piece) = some s := by
  induction s with
  | nil => rfl
  | cons c s ih =>
    rw [List.map_cons, piece]
    split
    next hc =>
      have hcode : c.toNat < 0xD800 := by omega
      rw [unit_joined hcode, ih, Option.map_some, Char.ofNat_toNat]
    next => rw [joinPieces, ih, Option.map_some]

theorem string_read (text : String) (rest : List Char) :
    string? (text.toList.flatMap escapeChar ++ '"' :: rest) = some (some text, rest) := by
  have hpieces : ∀ s : List Char,
      pieces? (s.flatMap escapeChar ++ '"' :: rest) = some (s.map piece, rest) := by
    intro s
    induction s with
    | nil => rfl
    | cons c s ih =>
      rw [List.flatMap_cons, List.append_assoc, char_read, ih]
      rfl
  rw [string?, hpieces, Option.map_some]
  simp only [pieces_joined, Option.map_some, String.ofList_toList]

theorem skip_solid {c : Char} (hc : isSpace c = false) (s : List Char) :
    skipSpace (c :: s) = c :: s :=
  List.dropWhile_cons_of_neg (by simp [hc])

theorem number_digit (h : number? negative digits = some (node, r)) :
    ∃ d ds, digits = d :: ds ∧ d.isDigit = true := by
  obtain ⟨⟨whole, r₁⟩, hw, -⟩ := Option.bind_eq_some_iff.mp h
  obtain ⟨⟨run, r₂⟩, hd, -⟩ := Option.bind_eq_some_iff.mp hw
  cases digits with
  | nil => cases hd
  | cons d ds =>
    refine ⟨d, ds, rfl, ?_⟩
    by_contra hno
    simp [digits?, List.takeWhile_cons_of_neg hno] at hd

theorem digit_value {d : Char} (hd : d.isDigit = true) (fuel : Nat) (s : List Char) :
    value? (fuel + 1) (d :: s) = number? false (d :: s) := by
  have hspace : isSpace d = false := by
    simpa using digit_holds (fun c => !isSpace c) (by decide) hd
  rw [value?, skip_solid hspace]
  split
  case h_1 heq => cases heq
  case h_9 => rfl
  all_goals
    next heq =>
      cases heq
      exact absurd hd (by decide)

theorem number_value {text : String} (h : ReadsAs text node) (hrest : EndsRun carriesOn rest)
    (fuel : Nat) : value? (fuel + 1) (text.toList ++ rest) = some (node, rest) := by
  obtain ⟨negative, digits, htext, hread⟩ := h
  have hwithin := number_within hrest hread
  rw [htext]
  cases negative with
  | true => exact hwithin
  | false =>
    obtain ⟨d, ds, rfl, hd⟩ := number_digit hread
    exact (digit_value hd fuel _).trans hwithin

structure Readable (trees : List Json) : Prop where
  integers : ∀ n, .int n ∈ trees → -(signedLimit : Int) ≤ n ∧ n < (wordLimit : Int)
  floats : ∀ x, .float x ∈ trees → ReadsAs (floatText x) (.float x)

theorem Readable.mono {trees trees' : List Json} (h : Readable trees') (hsub : trees ⊆ trees') :
    Readable trees :=
  ⟨fun n hn => h.integers n (hsub hn), fun x hx => h.floats x (hsub hx)⟩

theorem number_starts {text : String} (h : ReadsAs text node) :
    ∃ c s, text.toList = c :: s ∧ isSpace c = false ∧ c ≠ ']' := by
  obtain ⟨negative, digits, htext, hread⟩ := h
  obtain ⟨d, ds, rfl, hd⟩ := number_digit hread
  cases negative with
  | true => exact ⟨'-', _, htext, by decide, by decide⟩
  | false =>
    have hopen := digit_holds (fun c => !isSpace c && c != ']') (by decide) hd
    simp only [Bool.and_eq_true, Bool.not_eq_true', bne_iff_ne] at hopen
    exact ⟨d, ds, htext, hopen.1, hopen.2⟩

def joined (texts : List String) : List Char := (",".intercalate texts).toList

theorem joined_cons (text : String) {texts : List String} (hne : texts ≠ []) :
    joined (text :: texts) = text.toList ++ ',' :: joined texts := by
  obtain ⟨next, texts, rfl⟩ := List.exists_cons_of_ne_nil hne
  simp [joined, String.intercalate_cons_cons]

theorem joined_single (text : String) : joined [text] = text.toList := by
  simp [joined]

theorem joined_front (text : String) (texts : List String) :
    ∃ t, joined (text :: texts) = text.toList ++ t := by
  by_cases hne : texts = []
  · subst hne
    exact ⟨[], by rw [joined_single, List.append_nil]⟩
  · exact ⟨_, joined_cons text hne⟩

theorem string_text (text : String) :
    (stringText text).toList = '"' :: (text.toList.flatMap escapeChar ++ ['"']) := by
  simp [stringText]

theorem array_text (items : List Json) :
    (array items).compact.toList = '[' :: (joined (compactItems items) ++ [']']) := by
  simp [compact, bracketed, joined]

theorem object_text (fields : List (String × Json)) :
    (object fields).compact.toList = '\x7b' :: (joined (compactFields fields) ++ ['\x7d']) := by
  simp [compact, bracketed, joined]

theorem field_text (key : String) (value : Json) : (stringText key ++ ":" ++ value.compact).toList =
    '"' :: (key.toList.flatMap escapeChar ++ '"' :: ':' :: value.compact.toList) := by
  simp [string_text]

theorem text_starts {j : Json} (h : Readable j.parts) :
    ∃ c s, j.compact.toList = c :: s ∧ isSpace c = false ∧ c ≠ ']' := by
  cases j with
  | null => exact ⟨_, _, rfl, by decide, by decide⟩
  | bool b => cases b <;> exact ⟨_, _, rfl, by decide, by decide⟩
  | int n =>
    obtain ⟨hl, hu⟩ := h.integers n (by simp [parts])
    exact number_starts (integer_reads hl hu)
  | float x => exact number_starts (h.floats x (by simp [parts]))
  | string text => exact ⟨'"', _, string_text text, by decide, by decide⟩
  | array items => exact ⟨'[', _, array_text items, by decide, by decide⟩
  | object fields => exact ⟨'\x7b', _, object_text fields, by decide, by decide⟩

variable {item value : Node} {items : List Node} {fields : List (Option String × Node)} {c : Char}

theorem array_value (hc : isSpace c = false) (hclose : c ≠ ']')
    (h : items? fuel (c :: s) = some (items, rest)) :
    value? (fuel + 1) ('[' :: c :: s) = some (.array items, rest) := by
  rw [value?, skip_solid (by decide)]
  simp only [skip_solid hc]
  split
  next heq =>
    cases heq
    exact absurd rfl hclose
  next =>
    rw [h]
    rfl

theorem object_value (h : fields? fuel ('"' :: s) = some (fields, rest)) :
    value? (fuel + 1) ('\x7b' :: '"' :: s) = some (.object fields, rest) := by
  rw [value?, skip_solid (by decide)]
  simp only [skip_solid (c := '"') (by decide)]
  split
  next heq => cases heq
  next =>
    rw [h]
    rfl

theorem item_last (h : value? fuel s = some (item, ']' :: rest)) :
    items? (fuel + 1) s = some ([item], rest) := by
  simp [items?, h, skip_solid (c := ']') (by decide)]

theorem item_more (h : value? fuel s = some (item, ',' :: r))
    (hmore : items? fuel r = some (items, rest)) :
    items? (fuel + 1) s = some (item :: items, rest) := by
  simp [items?, h, hmore, skip_solid (c := ',') (by decide)]

theorem field_last (key : String) (h : value? fuel s = some (value, '\x7d' :: rest)) :
    fields? (fuel + 1) ('"' :: (key.toList.flatMap escapeChar ++ '"' :: ':' :: s)) =
      some ([(some key, value)], rest) := by
  simp [fields?, skip_solid (c := '"') (by decide), string_read,
    skip_solid (c := ':') (by decide), h, skip_solid (c := '\x7d') (by decide)]

theorem field_more (key : String) (h : value? fuel s = some (value, ',' :: r))
    (hmore : fields? fuel r = some (fields, rest)) :
    fields? (fuel + 1) ('"' :: (key.toList.flatMap escapeChar ++ '"' :: ':' :: s)) =
      some ((some key, value) :: fields, rest) := by
  simp [fields?, skip_solid (c := '"') (by decide), string_read,
    skip_solid (c := ':') (by decide), h, hmore, skip_solid (c := ',') (by decide)]

-- Each call enters a value or what follows a comma, so two calls for each character are enough.
mutual
theorem text_read (fuel : Nat) (rest : List Char) (j : Json) (h : Readable j.parts)
    (hfuel : 2 * j.compact.toList.length ≤ fuel) (hrest : EndsRun carriesOn rest) :
    value? fuel (j.compact.toList ++ rest) = some (j.toNode, rest) := by
  obtain ⟨c, s, hs, hspace, -⟩ := text_starts h
  have hlength : 0 < j.compact.toList.length := by rw [hs]; exact Nat.succ_pos _
  obtain ⟨fuel, rfl⟩ : ∃ n, fuel = n + 1 := ⟨fuel - 1, by omega⟩
  cases j with
  | null => rfl
  | bool b => cases b <;> rfl
  | int n =>
    obtain ⟨hl, hu⟩ := h.integers n (by simp [parts])
    exact number_value (integer_reads hl hu) hrest fuel
  | float x => exact number_value (h.floats x (by simp [parts])) hrest fuel
  | string text =>
    have htext : (Json.string text).compact.toList ++ rest =
        '"' :: (text.toList.flatMap escapeChar ++ '"' :: rest) := by
      simp [compact, string_text]
    rw [htext, value?, skip_solid (by decide)]
    simp only [string_read, Option.map_some, toNode]
  | array items =>
    have htext : (array items).compact.toList ++ rest =
        '[' :: (joined (compactItems items) ++ ']' :: rest) := by
      simp [array_text]
    rw [array_text] at hfuel
    rw [htext]
    cases items with
    | nil => rfl
    | cons item more =>
      have hitem : Readable item.parts := h.mono (by simp [parts, itemParts])
      obtain ⟨d, t, hd, hsolid, hclose⟩ := text_starts hitem
      obtain ⟨t', ht'⟩ := joined_front item.compact (compactItems more)
      simp only [List.length_cons, List.length_append, List.length_nil] at hfuel
      have hitems :=
        items_read fuel rest (item :: more) (h.mono (by simp [parts])) (by simp) (by omega)
      have hfront : joined (compactItems (item :: more)) = d :: (t ++ t') := by
        rw [compactItems, ht', hd, List.cons_append]
      rw [hfront] at hitems ⊢
      exact array_value hsolid hclose hitems
  | object fields =>
    have htext : (object fields).compact.toList ++ rest =
        '\x7b' :: (joined (compactFields fields) ++ '\x7d' :: rest) := by
      simp [object_text]
    rw [object_text] at hfuel
    rw [htext]
    cases fields with
    | nil => rfl
    | cons field more =>
      obtain ⟨key, value⟩ := field
      obtain ⟨t', ht'⟩ := joined_front (stringText key ++ ":" ++ value.compact) (compactFields more)
      simp only [List.length_cons, List.length_append, List.length_nil] at hfuel
      have hfields :=
        fields_read fuel rest ((key, value) :: more) (h.mono (by simp [parts])) (by simp)
        (by omega)
      have hfront : joined (compactFields ((key, value) :: more)) =
          '"' :: (key.toList.flatMap escapeChar ++ '"' :: ':' :: value.compact.toList ++ t') := by
        rw [compactFields, ht', field_text, List.cons_append]
      rw [hfront] at hfields ⊢
      exact object_value hfields
termination_by structural j

theorem items_read (fuel : Nat) (rest : List Char) (items : List Json)
    (h : Readable (itemParts items))
    (hne : items ≠ []) (hfuel : 2 * (joined (compactItems items)).length + 1 ≤ fuel) :
    items? fuel (joined (compactItems items) ++ ']' :: rest) = some (itemNodes items, rest) := by
  cases items with
  | nil => exact absurd rfl hne
  | cons item more =>
    obtain ⟨fuel, rfl⟩ : ∃ n, fuel = n + 1 := ⟨fuel - 1, by omega⟩
    have hitem : Readable item.parts := h.mono (by simp [itemParts])
    by_cases hmore : more = []
    · subst hmore
      have hjoined : joined (compactItems [item]) = item.compact.toList := joined_single _
      rw [hjoined] at hfuel ⊢
      exact item_last (text_read fuel _ item hitem (by omega) rfl)
    · have hjoined : joined (compactItems (item :: more)) =
          item.compact.toList ++ ',' :: joined (compactItems more) :=
        joined_cons _ (by cases more <;> simp_all [compactItems])
      rw [hjoined] at hfuel ⊢
      simp only [List.length_append, List.length_cons] at hfuel
      rw [List.append_assoc, List.cons_append]
      exact item_more (text_read fuel _ item hitem (by omega) rfl)
        (items_read fuel rest more (h.mono (by simp [itemParts])) hmore (by omega))
termination_by structural items

theorem fields_read (fuel : Nat) (rest : List Char) (fields : List (String × Json))
    (h : Readable (fieldParts fields)) (hne : fields ≠ [])
    (hfuel : 2 * (joined (compactFields fields)).length + 1 ≤ fuel) :
    fields? fuel (joined (compactFields fields) ++ '\x7d' :: rest) =
      some (fieldNodes fields, rest) := by
  cases fields with
  | nil => exact absurd rfl hne
  | cons field more =>
    obtain ⟨key, value⟩ := field
    obtain ⟨fuel, rfl⟩ : ∃ n, fuel = n + 1 := ⟨fuel - 1, by omega⟩
    have hvalue : Readable value.parts := h.mono (by simp [fieldParts])
    by_cases hmore : more = []
    · subst hmore
      have hjoined : joined (compactFields [(key, value)]) =
          '"' :: (key.toList.flatMap escapeChar ++ '"' :: ':' :: value.compact.toList) :=
        (joined_single _).trans (field_text key value)
      rw [hjoined] at hfuel ⊢
      simp only [List.length_append, List.length_cons] at hfuel
      simp only [List.cons_append, List.append_assoc]
      exact field_last key (text_read fuel _ value hvalue (by omega) rfl)
    · have hjoined : joined (compactFields ((key, value) :: more)) =
          '"' :: (key.toList.flatMap escapeChar ++ '"' :: ':' :: value.compact.toList) ++
            ',' :: joined (compactFields more) := by
        rw [← field_text]
        exact joined_cons _ (by cases more <;> simp_all [compactFields])
      rw [hjoined] at hfuel ⊢
      simp only [List.length_append, List.length_cons] at hfuel
      simp only [List.cons_append, List.append_assoc]
      exact field_more key (text_read fuel _ value hvalue (by omega) rfl)
        (fields_read fuel rest more (h.mono (by simp [fieldParts])) hmore (by omega))
termination_by structural fields
end

/-- The text of a tree is read as its node. -/
theorem node_back {j : Json} (h : Readable j.parts) : node? j.compact = some j.toNode := by
  have hread := text_read (2 * j.compact.toList.length + 2) [] j h (by omega) rfl
  rw [List.append_nil] at hread
  simp [node?, hread, skipSpace]

end ActionDispatch.Json
