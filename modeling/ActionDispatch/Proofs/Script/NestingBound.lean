import ActionDispatch.Proofs.Script.Height
import ActionDispatch.Proofs.Script.RoundTrip

/-!
# What the nesting bounds

The nesting of an accepted text bounds the height of its tree where no chain goes on behind a
closing bracket. Each bracket behind which a chain is resumed allows for the nesting once more, and
there is no bound without them: positions can be chained without end at a nesting of one.
-/

set_option autoImplicit false

namespace ActionDispatch.Script

/-- The tree of an accepted text is no higher than the nesting of the text, times one more than the
number of brackets behind which a chain is resumed. The nesting is within its limit, and so is the
height where no chain is resumed. -/
theorem parsed_height_bounded (text : String) (e : Expr) (h : parse text = .ok e) :
    e.height ≤ (resumptions (marks text.toList) + 1) * nesting text.toList ∧
      nesting text.toList ≤ maxNesting ∧
      (resumptions (marks text.toList) = 0 → e.height ≤ maxNesting) := by
  simp only [parse] at h
  split at h
  next => cases h
  next hdeep =>
    have hbound := spans_nesting (parseWithin_spans h)
    have hlimit := Nat.le_of_not_lt hdeep
    refine ⟨hbound, hlimit, fun hnone => ?_⟩
    rw [hnone, Nat.zero_add, Nat.one_mul] at hbound
    exact Nat.le_trans hbound hlimit

/-- The bound is met where a chain ends with its bracket. -/
theorem parsed_height_bounded_group :
    let e : Expr := .binary .or (.name "d")
      (.call "f" [.binary .add (.name "a") (.list [.name "b", .not (.name "c")])])
    parse "d||f(a+[b,!c])" = .ok e ∧ e.height = 5 ∧ nesting "d||f(a+[b,!c])".toList = 5 ∧
      resumptions (marks "d||f(a+[b,!c])".toList) = 0 ∧ e.height ≤ maxNesting := by
  intro e
  have hnone : resumptions (marks "d||f(a+[b,!c])".toList) = 0 := by decide +kernel
  have hnesting : nesting "d||f(a+[b,!c])".toList = 5 := by decide +kernel
  have hparse : parse "d||f(a+[b,!c])" = .ok e := by
    refine accepted_parses (spelled_accepted (by decide) ?_) (hnesting ▸ by decide)
    exact spells_flatten e.words
  exact ⟨hparse, by decide, hnesting, hnone, (parsed_height_bounded _ e hparse).2.2 hnone⟩

def indexed : Nat → Expr
  | 0 => .name "a"
  | n + 1 => .index (indexed n) (.literal (.int 0))

def positions (n : Nat) : List Char := (List.replicate n ['[', '0', ']']).flatten

theorem indexed_height (n : Nat) : (indexed n).height = n := by
  induction n with
  | zero => rfl
  | succ n ih => simp [indexed, Expr.height, ih]

theorem indexed_writable (n : Nat) : (indexed n).writable = true := by
  induction n with
  | zero => decide
  | succ n ih => simp [indexed, Expr.writable, ih, isWritable]

theorem indexed_words (n : Nat) : (indexed n).words.flatten = 'a' :: positions n := by
  induction n with
  | zero => rfl
  | succ n ih =>
    have hplain : (indexed n).looseness = 0 := by cases n <;> rfl
    have hzero : literalWord (.int 0) = ['0'] := by decide
    rw [positions, List.replicate_succ', List.flatten_concat, ← positions, ← List.cons_append, ← ih]
    simp [indexed, Expr.words, enclose, hplain, hzero]

theorem positions_marks (n : Nat) :
    marks (positions (n + 1)) = .opening :: .closing :: marks (positions n) := by
  have hdigit : ∀ r, marks ('0' :: r) = marks r := unscanned_passed (by decide)
  have hopen : ∀ r, marks ('[' :: r) = .opening :: marks r := fun r => marks_counted (by decide) rfl
  have hclose : ∀ r, marks (']' :: r) = .closing :: marks r :=
    fun r => marks_counted (by decide) rfl
  rw [show positions (n + 1) = '[' :: '0' :: ']' :: positions n from rfl, hopen, hdigit, hclose]

/-- The scanner comes out of a position as it went into it. -/
theorem positions_nesting (n : Nat) : nesting ('a' :: positions n) ≤ 1 := by
  have hsteps : ∀ d, d ≤ 1 →
      ((marks (positions n)).foldl Levels.step ⟨0, [], 0, d⟩).deepest ≤ 1 := by
    induction n with
    | zero => simp [positions, marks_nil]
    | succ n ih =>
      intro d hd
      have hstep : (Levels.step ⟨0, [], 0, d⟩ .opening).step .closing = ⟨0, [], 0, 1⟩ := by
        obtain rfl | rfl : d = 0 ∨ d = 1 := by omega
        · rfl
        · rfl
      rw [positions_marks, List.foldl_cons, List.foldl_cons, hstep]
      exact ih 1 (Nat.le_refl 1)
  rw [nesting_marks, unscanned_passed (by decide)]
  exact hsteps 0 (Nat.zero_le 1)

theorem indexed_parses (n : Nat) :
    parse (String.ofList ('a' :: positions n)) = .ok (indexed n) := by
  have hspells : Spells (indexed n).words ('a' :: positions n) := indexed_words n ▸ spells_flatten _
  refine accepted_parses ?_ ?_
  · rw [String.toList_ofList]
    exact spelled_accepted (indexed_writable n) hspells
  · rw [String.toList_ofList]
    exact Nat.le_trans (positions_nesting n) (by decide)

/-- The limit of the nesting is no limit of the height: there are accepted texts of a nesting of one
with trees of every height. -/
theorem height_unbounded (n : Nat) :
    ∃ text e, parse text = .ok e ∧ nesting text.toList ≤ 1 ∧ e.height = n :=
  ⟨_, _, indexed_parses n, by rw [String.toList_ofList]; exact positions_nesting n,
    indexed_height n⟩

/-- One position more than the limit allows levels. -/
theorem height_beyond_limit :
    parse (String.ofList ('a' :: positions 65)) = .ok (indexed 65) ∧
      maxNesting < (indexed 65).height :=
  ⟨indexed_parses 65, by rw [indexed_height]; decide⟩

end ActionDispatch.Script
