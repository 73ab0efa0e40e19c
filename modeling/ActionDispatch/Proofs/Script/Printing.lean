import ActionDispatch.Script.Parser
import ActionDispatch.Value.Json

/-!
# Printing scripts

The words a tree is written with, in parentheses only where the grammar asks for them, and the texts
that spell a list of words with any white space in front of, between and behind them.
-/

set_option autoImplicit false

namespace ActionDispatch.Script

abbrev Word := List Char

def BinaryOp.looseness : BinaryOp → Nat
  | .add => 2
  | .eq => 3
  | .ne => 3
  | .and => 4
  | .or => 5

def Expr.looseness : Expr → Nat
  | .not _ => 1
  | .binary op _ _ => op.looseness
  | .elvis _ _ => 6
  | _ => 0

def enclose (allowed looseness : Nat) (ws : List Word) : List Word :=
  if allowed < looseness then ['('] :: ws ++ [[')']] else ws

def escapeChar (c : Char) : List Char :=
  if c = '\\' ∨ c = '\'' then ['\\', c] else [c]

def quotedWord (s : String) : Word :=
  '\'' :: s.toList.flatMap escapeChar ++ ['\'']

def literalWord : Value → Word
  | .string s => quotedWord s
  | v => v.text.toList

def point (safe : Bool) : Word :=
  if safe then ['?', '.'] else ['.']

mutual
def Expr.words : Expr → List Word
  | .literal v => [literalWord v]
  | .list items => ['['] :: [[',']].intercalate (wordsOfEach items) ++ [[']']]
  | .name n => [n.toList]
  | .property target member safe =>
    enclose 0 target.looseness target.words ++ [point safe, member.toList]
  | .index target position =>
    enclose 0 target.looseness target.words ++ ['['] :: position.words ++ [[']']]
  | .call function args =>
    function.toList :: ['('] :: [[',']].intercalate (wordsOfEach args) ++ [[')']]
  | .invoke target method args safe =>
    enclose 0 target.looseness target.words ++
      point safe :: method.toList :: ['('] :: [[',']].intercalate (wordsOfEach args) ++ [[')']]
  | .not operand => ['!'] :: enclose 1 operand.looseness operand.words
  | .binary op left right =>
    enclose op.looseness left.looseness left.words ++
      op.sign.toList :: enclose (op.looseness - 1) right.looseness right.words
  | .elvis left right =>
    enclose 6 left.looseness left.words ++ ['?', ':'] :: enclose 5 right.looseness right.words
termination_by structural e => e

def wordsOfEach : List Expr → List (List Word)
  | [] => []
  | e :: rest => e.words :: wordsOfEach rest
termination_by structural es => es
end

def isName : Word → Bool
  | [] => false
  | c :: rest => startsName c && rest.all continuesName

def isReserved (n : String) : Bool :=
  n == "true" || n == "false" || n == "null"

def isFreeName (n : String) : Bool :=
  isName n.toList && !isReserved n

def isWritable : Value → Bool
  | .null => true
  | .bool _ => true
  | .int _ => true
  | .string _ => true
  | _ => false

mutual
/-- Literals are null, booleans, integers and strings, and names can be read as such. -/
def Expr.writable : Expr → Bool
  | .literal v => isWritable v
  | .list items => allWritable items
  | .name n => isFreeName n
  | .property target member _ => target.writable && isName member.toList
  | .index target position => target.writable && position.writable
  | .call function args => isFreeName function && allWritable args
  | .invoke target method args _ => target.writable && isName method.toList && allWritable args
  | .not operand => operand.writable
  | .binary _ left right => left.writable && right.writable
  | .elvis left right => left.writable && right.writable
termination_by structural e => e

def allWritable : List Expr → Bool
  | [] => true
  | e :: rest => e.writable && allWritable rest
termination_by structural es => es
end

structure WritableCases (P : Expr → Prop) : Prop where
  literal : ∀ v, isWritable v = true → P (.literal v)
  list : ∀ items, (∀ e ∈ items, e.writable = true ∧ P e) → P (.list items)
  name : ∀ n, isFreeName n = true → P (.name n)
  property : ∀ target member safe, target.writable = true → isName member.toList = true →
    P target → P (.property target member safe)
  index : ∀ target position, target.writable = true → position.writable = true →
    P target → P position → P (.index target position)
  call : ∀ function args, isFreeName function = true → (∀ e ∈ args, e.writable = true ∧ P e) →
    P (.call function args)
  invoke : ∀ target method args safe, target.writable = true → isName method.toList = true →
    (∀ e ∈ args, e.writable = true ∧ P e) → P target → P (.invoke target method args safe)
  not : ∀ operand, operand.writable = true → P operand → P (.not operand)
  binary : ∀ op left right, left.writable = true → right.writable = true →
    P left → P right → P (.binary op left right)
  elvis : ∀ left right, left.writable = true → right.writable = true →
    P left → P right → P (.elvis left right)

mutual
/-- Induction over the trees that can be written. -/
theorem writable_induction {P : Expr → Prop} (h : WritableCases P) (e : Expr)
    (he : e.writable = true) : P e := by
  match e, he with
  | .literal v, he => exact h.literal v he
  | .list items, he => exact h.list items (each_writable_induction h items he)
  | .name n, he => exact h.name n he
  | .property target member safe, he =>
    obtain ⟨ht, hm⟩ := Bool.and_eq_true_iff.mp he
    exact h.property target member safe ht hm (writable_induction h target ht)
  | .index target position, he =>
    obtain ⟨ht, hp⟩ := Bool.and_eq_true_iff.mp he
    exact h.index target position ht hp (writable_induction h target ht)
      (writable_induction h position hp)
  | .call function args, he =>
    obtain ⟨hf, ha⟩ := Bool.and_eq_true_iff.mp he
    exact h.call function args hf (each_writable_induction h args ha)
  | .invoke target method args safe, he =>
    obtain ⟨htm, ha⟩ := Bool.and_eq_true_iff.mp he
    obtain ⟨ht, hm⟩ := Bool.and_eq_true_iff.mp htm
    exact h.invoke target method args safe ht hm (each_writable_induction h args ha)
      (writable_induction h target ht)
  | .not operand, he => exact h.not operand he (writable_induction h operand he)
  | .binary op left right, he =>
    obtain ⟨hl, hr⟩ := Bool.and_eq_true_iff.mp he
    exact h.binary op left right hl hr (writable_induction h left hl)
      (writable_induction h right hr)
  | .elvis left right, he =>
    obtain ⟨hl, hr⟩ := Bool.and_eq_true_iff.mp he
    exact h.elvis left right hl hr (writable_induction h left hl) (writable_induction h right hr)

theorem each_writable_induction {P : Expr → Prop} (h : WritableCases P) (es : List Expr)
    (hes : allWritable es = true) : ∀ e ∈ es, e.writable = true ∧ P e := by
  match es, hes with
  | [], _ => simp
  | e :: rest, hes =>
    obtain ⟨he, hrest⟩ := Bool.and_eq_true_iff.mp hes
    have hfirst := writable_induction h e he
    have hothers := each_writable_induction h rest hrest
    intro d hd
    rcases List.mem_cons.mp hd with rfl | hd
    · exact ⟨he, hfirst⟩
    · exact hothers d hd
end

def Blank (s : List Char) : Prop := ∀ c ∈ s, isSpace c = true

/-- A text spells words if nothing but white space stands in front of, between and behind them. -/
inductive Spells : List Word → List Char → Prop where
  | nil {w : List Char} : Blank w → Spells [] w
  | cons {w t s : List Char} {ts : List Word} :
      Blank w → Spells ts s → Spells (t :: ts) (w ++ t ++ s)

instance (s : List Char) : Decidable (Blank s) :=
  List.decidableBAll (fun c => isSpace c = true) s

theorem spells_behind {us : List Word} {s : List Char} (ts : List Word) (h : Spells us s) :
    Spells (ts ++ us) (ts.flatten ++ s) := by
  have hblank : Blank [] := by simp [Blank]
  induction ts with
  | nil => exact h
  | cons t ts ih =>
    rw [List.flatten_cons, List.append_assoc]
    exact .cons hblank ih

theorem spells_flatten (ts : List Word) : Spells ts ts.flatten := by
  have hblank : Blank [] := by simp [Blank]
  simpa using spells_behind ts (.nil hblank)

theorem spells_gaps (w : List Char) (gapped : List (Word × List Char)) (hw : Blank w)
    (hg : ∀ g ∈ gapped, Blank g.2) :
    Spells (gapped.map Prod.fst) (w ++ gapped.flatMap fun g => g.1 ++ g.2) := by
  induction gapped generalizing w with
  | nil => simpa using Spells.nil hw
  | cons g gapped ih =>
    have hrest := ih g.2 (hg g (by simp)) fun d hd => hg d (by simp [hd])
    simpa using Spells.cons (t := g.1) hw hrest

end ActionDispatch.Script
