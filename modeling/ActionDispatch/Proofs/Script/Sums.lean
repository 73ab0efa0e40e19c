import Mathlib.Algebra.Ring.Int.Defs
import Mathlib.Data.List.Forall2
import ActionDispatch.Proofs.Decimal.Whole
import ActionDispatch.Proofs.Script.Evaluation
import ActionDispatch.Proofs.Script.RoundTrip

/-!
# Sums

A chain of `+` adds integers exactly, as long as every sum on the way fits in 64 bits, and fails at
the first that does not. From the first text on it puts texts together: the text of the sum so far,
and then that of each operand, so that integers behind a text are not added any more.
-/

set_option autoImplicit false

namespace ActionDispatch.Script
open Decimal

inductive Summand where
  | int (n : Int64)
  | text (s : String)
deriving DecidableEq, Repr

def Summand.value : Summand → Value
  | .int n => .int n
  | .text s => .string s

def whole : List Summand → List Int
  | .int n :: rest => n.toInt :: whole rest
  | _ => []

def fromText : List Summand → List Summand
  | .int _ :: rest => fromText rest
  | terms => terms

def Overflows (ns : List Int) : Prop := ∃ j ≤ ns.length, ¬InRange (ns.take j).sum

instance (ns : List Int) : Decidable (Overflows ns) :=
  inferInstanceAs (Decidable (∃ j, j ≤ ns.length ∧ ¬InRange (ns.take j).sum))

def sumText (ns : List Int) : String :=
  if ns.isEmpty then "" else toString ns.sum

def sumValue (ns : List Int) : List Summand → Value
  | [] => .int (Int64.ofInt ns.sum)
  | terms => .string (sumText ns ++ String.join (terms.map fun term => term.value.text))

theorem not_overflows_nil : ¬Overflows [] := by
  rintro ⟨j, -, hj⟩
  exact hj (by simpa using inRange_zero)

theorem not_overflows_single (n : Int64) : ¬Overflows [n.toInt] := by
  rintro ⟨j, -, hj⟩
  cases j with
  | zero => exact hj inRange_zero
  | succ j => exact hj (by simpa using inRange_int64 n)

/-- The first two numbers may be taken for their sum, the first one being one that fits. -/
theorem overflows_add {a b : Int} (ha : InRange a) (ns : List Int) :
    Overflows (a :: b :: ns) ↔ Overflows ((a + b) :: ns) := by
  constructor
  · rintro ⟨j, hle, hj⟩
    match j with
    | 0 => exact absurd inRange_zero hj
    | 1 => exact absurd (by simpa using ha) hj
    | j + 2 =>
      refine ⟨j + 1, by simpa using hle, ?_⟩
      simpa [Int.add_assoc] using hj
  · rintro ⟨j, hle, hj⟩
    match j with
    | 0 => exact absurd inRange_zero hj
    | j + 1 =>
      refine ⟨j + 2, by simpa using hle, ?_⟩
      simpa [Int.add_assoc] using hj

theorem overflows_second {a b : Int} (h : ¬InRange (a + b)) (ns : List Int) :
    Overflows (a :: b :: ns) :=
  ⟨2, by simp, by simpa using h⟩

theorem sumValue_add (a b : Int) (ns : List Int) (terms : List Summand) :
    sumValue (a :: b :: ns) terms = sumValue ((a + b) :: ns) terms := by
  cases terms <;> simp [sumValue, sumText, Int.add_assoc]

theorem addInts_exact {a b : Int64} (h : InRange (a.toInt + b.toInt)) :
    addInts a b = .ok (.int (Int64.ofInt (a.toInt + b.toInt))) := by
  rw [addInts, int64_inRange h]

theorem addInts_overflows {a b : Int64} (h : ¬InRange (a.toInt + b.toInt)) :
    addInts a b = .error (.type "integer overflow") := by
  rw [addInts, int64_beyond h]

theorem add_text (s : String) (v : Value) : add (.string s) v = .ok (.string (s ++ v.text)) := by
  cases v <;> rfl

theorem texts_added (s : String) (vs : List Value) :
    vs.foldlM add (.string s) = .ok (.string (s ++ String.join (vs.map Value.text))) := by
  induction vs generalizing s with
  | nil => simp [pure, Except.pure]
  | cons v rest ih =>
    rw [List.foldlM_cons, add_text]
    show rest.foldlM add (.string (s ++ v.text)) = _
    rw [ih, List.map_cons, String.join_cons, String.append_assoc]

theorem int_added {a n : Int64} (h : InRange (a.toInt + n.toInt)) (rest : List Summand) :
    ((Summand.int n :: rest).map Summand.value).foldlM add (.int a) =
      (rest.map Summand.value).foldlM add (.int (Int64.ofInt (a.toInt + n.toInt))) := by
  show addInts a n >>= _ = _
  rw [addInts_exact h]
  rfl

theorem int_not_added {a n : Int64} (h : ¬InRange (a.toInt + n.toInt)) (rest : List Summand) :
    ((Summand.int n :: rest).map Summand.value).foldlM add (.int a) =
      .error (.type "integer overflow") := by
  show addInts a n >>= _ = _
  rw [addInts_overflows h]
  rfl

/-- Behind an integer, which stands for the sum of what was in front of it. -/
theorem terms_added (a : Int64) (terms : List Summand) :
    (Overflows (a.toInt :: whole terms) →
      (terms.map Summand.value).foldlM add (.int a) = .error (.type "integer overflow")) ∧
    (¬Overflows (a.toInt :: whole terms) →
      (terms.map Summand.value).foldlM add (.int a) =
        .ok (sumValue (a.toInt :: whole terms) (fromText terms))) := by
  induction terms generalizing a with
  | nil =>
    refine ⟨fun h => absurd h (not_overflows_single a), fun _ => ?_⟩
    simp [whole, fromText, sumValue, pure, Except.pure]
  | cons term rest ih =>
    cases term with
    | int n =>
      by_cases hrange : InRange (a.toInt + n.toInt)
      · -- the two integers are one now, on either side
        have hrest := ih (Int64.ofInt (a.toInt + n.toInt))
        rw [toInt_ofInt_inRange hrange] at hrest
        rw [int_added hrange, whole, fromText, overflows_add (inRange_int64 a), sumValue_add]
        exact hrest
      · have hover : Overflows (a.toInt :: whole (.int n :: rest)) := overflows_second hrange _
        exact ⟨fun _ => int_not_added hrange rest, fun h => absurd hover h⟩
    | text s =>
      refine ⟨fun h => absurd h (not_overflows_single a), fun _ => ?_⟩
      show (rest.map Summand.value).foldlM add (.string ((Value.int a).text ++ s)) = _
      rw [texts_added]
      simp [whole, fromText, sumValue, sumText, Summand.value, Value.text, String.append_assoc,
        Function.comp_def]

theorem added_overflows {first : Summand} {terms : List Summand}
    (h : Overflows (whole (first :: terms))) :
    (terms.map Summand.value).foldlM add first.value = .error (.type "integer overflow") := by
  cases first with
  | int a => exact (terms_added a terms).1 h
  | text s => exact absurd h not_overflows_nil

theorem added_value {first : Summand} {terms : List Summand}
    (h : ¬Overflows (whole (first :: terms))) :
    (terms.map Summand.value).foldlM add first.value =
      .ok (sumValue (whole (first :: terms)) (fromText (first :: terms))) := by
  cases first with
  | int a => exact (terms_added a terms).2 h
  | text s =>
    rw [Summand.value, texts_added]
    simp [whole, fromText, sumValue, sumText, Summand.value, Value.text, Function.comp_def]

/-- What a sum comes to: it fails where a sum on the way does not fit, and is the exact sum of
integers alone, or the text of the sum in front of the first text and those of the operands from
there on. -/
structure Summed (terms : List Summand) (outcome : Outcome ScriptError Value) : Prop where
  overflow : Overflows (whole terms) → outcome = .failed (.type "integer overflow")
  number : ¬Overflows (whole terms) → fromText terms = [] →
    ∃ n : Int64, n.toInt = (whole terms).sum ∧ outcome = .done (.int n)
  text : ¬Overflows (whole terms) → fromText terms ≠ [] →
    outcome = .done (.string (sumText (whole terms) ++
      String.join ((fromText terms).map fun term => term.value.text)))

theorem inRange_sum {ns : List Int} (h : ¬Overflows ns) : InRange ns.sum := by
  by_contra hrange
  exact h ⟨ns.length, Nat.le_refl _, by simpa using hrange⟩

variable {Event : Type}

theorem added_summed (first : Summand) (terms : List Summand) :
    Summed (first :: terms) (Run.ofExcept ((terms.map Summand.value).foldlM add first.value) :
      Run Event ScriptError Value).outcome := by
  constructor
  · intro h
    rw [added_overflows h]
    rfl
  · intro h hnil
    rw [added_value h, hnil]
    exact ⟨_, toInt_ofInt_inRange (inRange_sum h), rfl⟩
  · intro h hne
    obtain ⟨term, rest, hterms⟩ := List.exists_cons_of_ne_nil hne
    rw [added_value h, hterms]
    rfl

def sumOf (e : Expr) (rest : List Expr) : Expr :=
  rest.foldl (.binary .add) e

def sumWords (e : Expr) (rest : List Expr) : List Word :=
  e.wordsWithin 2 ++ rest.flatMap fun operand => ['+'] :: operand.wordsWithin 1

variable (scope : Table Value) (host : Host Event)

def addOperand (v : Value) (operand : Expr) : Run Event ScriptError Value := do
  Run.ofExcept (add v (← operand.eval scope host))

theorem sum_eval (e : Expr) (rest : List Expr) :
    (sumOf e rest).eval scope host = e.eval scope host >>= rest.foldlM (addOperand scope host) := by
  induction rest generalizing e with
  | nil => exact (Run.bind_pure _).symm
  | cons operand rest ih =>
    rw [sumOf, List.foldl_cons, ← sumOf, ih]
    simp only [Expr.eval, operate, Run.bind_bind, List.foldlM_cons, addOperand]

theorem operands_added {operands : List Expr} {vs : List Value}
    (h : List.Forall₂ (fun operand v => (operand.eval scope host).outcome = .done v) operands vs)
    (v : Value) : (operands.foldlM (addOperand scope host) v).outcome =
      (Run.ofExcept (vs.foldlM add v) : Run Event ScriptError Value).outcome := by
  induction h generalizing v with
  | nil => rfl
  | @cons operand w operands vs hw _ ih =>
    rw [List.foldlM_cons, List.foldlM_cons, addOperand, Run.bind_bind, Run.bind_of_done hw]
    cases hadd : add v w with
    | ok sum => exact ih sum
    | error error => rfl

theorem sum_writable {e : Expr} {rest : List Expr}
    (h : ∀ operand ∈ e :: rest, operand.writable = true) :
    (sumOf e rest).writable = true := by
  induction rest generalizing e with
  | nil => exact h e (by simp)
  | cons operand rest ih =>
    refine ih (List.forall_mem_cons.mpr ⟨?_, fun other ho => h other (by simp [ho])⟩)
    exact Bool.and_eq_true_iff.mpr ⟨h e (by simp), h operand (by simp)⟩

theorem add_words (e operand : Expr) :
    (Expr.binary .add e operand).words = sumWords e [operand] ∧
      (Expr.binary .add e operand).wordsWithin 2 = sumWords e [operand] := by
  have hwords : (Expr.binary .add e operand).words =
      e.wordsWithin 2 ++ ['+'] :: operand.wordsWithin 1 := rfl
  have hlevel : ¬2 < (Expr.binary .add e operand).looseness := by
    simp [Expr.looseness, BinaryOp.looseness]
  rw [Expr.wordsWithin, enclose, if_neg hlevel, hwords]
  simp [sumWords]

theorem sum_words (e : Expr) {rest : List Expr} (hne : rest ≠ []) :
    (sumOf e rest).words = sumWords e rest := by
  induction rest generalizing e with
  | nil => exact absurd rfl hne
  | cons operand rest ih =>
    by_cases hrest : rest = []
    · subst hrest
      exact (add_words e operand).1
    · rw [sumOf, List.foldl_cons, ← sumOf, ih _ hrest, sumWords, (add_words e operand).2]
      simp [sumWords]

theorem sum_parses {e : Expr} {rest : List Expr} (hne : rest ≠ [])
    (hwritable : ∀ operand ∈ e :: rest, operand.writable = true) {text : String}
    (ht : Spells (sumWords e rest) text.toList) (hn : nesting text.toList ≤ maxNesting) :
    parse text = .ok (sumOf e rest) := by
  rw [← sum_words e hne] at ht
  exact accepted_parses (spelled_accepted (sum_writable hwritable) ht) hn

/-- A chain of `+` whose operands have integers and texts as their values is summed up exactly or
fails, and a text of such operands with signs between them is evaluated as this chain. -/
theorem sum_exact_or_overflows (e : Expr) (rest : List Expr) (terms : List Summand)
    (hterms : List.Forall₂
      (fun operand term => (operand.eval scope host).outcome = .done term.value)
      (e :: rest) terms) :
    Summed terms ((sumOf e rest).eval scope host).outcome ∧
      ∀ text, rest ≠ [] → (∀ operand ∈ e :: rest, operand.writable = true) →
        Spells (sumWords e rest) text.toList → nesting text.toList ≤ maxNesting →
          evaluate text scope host = (sumOf e rest).eval scope host := by
  constructor
  · obtain ⟨first, others, hfirst, hothers, rfl⟩ := List.forall₂_cons_left_iff.mp hterms
    have hvalues : List.Forall₂ (fun operand v => (operand.eval scope host).outcome = .done v) rest
        (others.map Summand.value) := List.forall₂_map_right_iff.mpr hothers
    rw [sum_eval, Run.bind_of_done hfirst]
    show Summed _ (rest.foldlM (addOperand scope host) first.value).outcome
    rw [operands_added scope host hvalues]
    exact added_summed first others
  · intro text hne hwritable ht hn
    exact evaluate_parsed (sum_parses hne hwritable ht hn) scope host

/-- Up to the largest integer the sum in front of a text is exact, and integers behind the text are
not added. One more in front of the text, and there is no text either. -/
theorem sum_exact_or_overflows_mixed :
    let number (n : Int64) := Expr.literal (.int n)
    let host : Host Unit := .detached
    (evaluate "9223372036854775806+1 + 'x'+2+3" Table.empty host).outcome =
        .done (.string "9223372036854775807x23") ∧
      ((sumOf (number 9223372036854775807) [number 1, .literal (.string "x")]).eval Table.empty
        host).outcome = .failed (.type "integer overflow") := by
  intro number host
  have hnumber : ∀ n : Int64, ((number n).eval Table.empty host).outcome = .done (.int n) :=
    fun _ => rfl
  obtain ⟨hsum, htext⟩ := sum_exact_or_overflows Table.empty host (number 9223372036854775806)
    [number 1, .literal (.string "x"), number 2, number 3]
    [.int 9223372036854775806, .int 1, .text "x", .int 2, .int 3]
    (.cons (hnumber _) (.cons (hnumber _) (.cons rfl (.cons (hnumber _) (.cons (hnumber _) .nil)))))
  obtain ⟨hover, -⟩ := sum_exact_or_overflows Table.empty host (number 9223372036854775807)
    [number 1, .literal (.string "x")] [.int 9223372036854775807, .int 1, .text "x"]
    (.cons (hnumber _) (.cons (hnumber _) (.cons rfl .nil)))
  constructor
  · have hspelled : Spells (sumWords (number 9223372036854775806)
        [number 1, .literal (.string "x"), number 2, number 3])
        "9223372036854775806+1 + 'x'+2+3".toList :=
      spells_gaps []
        [("9223372036854775806".toList, []), (['+'], []), (['1'], [' ']), (['+'], [' ']),
          ("'x'".toList, []), (['+'], []), (['2'], []), (['+'], []), (['3'], [])]
        (by decide) (by decide)
    rw [htext _ (by simp) (by decide) hspelled (by decide +kernel)]
    exact hsum.text (by decide) (by decide)
  · exact hover.overflow (by decide)

end ActionDispatch.Script
