import ActionDispatch.Template.Filter

/-!
# Segments of rewritten templates

A template is split where its interpolations open and where the braces that close them stand. A body
that leaves its reader where it found him is closed by the next brace, in any template. So a
template whose bodies are rewritten to such bodies is split into the same segments, with the new
bodies.
-/

set_option autoImplicit false

namespace ActionDispatch.Template

/-- How many braces are open and where the reader of a body stands, behind one more character. At
the brace that closes the body there is nothing to go on with. -/
def advance : Nat × Place → Char → Option (Nat × Place)
  | (depth, .code), c =>
    if c = '\x7b' then some (depth + 1, .code)
    else if c = '\x7d' then if depth = 0 then none else some (depth - 1, .code)
    else some (depth, Place.after c .code)
  | (depth, place), c => some (depth, place.after c)

def Closed (body : List Char) : Prop := body.foldlM advance (0, .code) = some (0, .code)

instance (body : List Char) : Decidable (Closed body) :=
  inferInstanceAs (Decidable (_ = _))

variable {s body before rest : List Char} {depth d : Nat} {place p : Place} {c : Char}

theorem closing_step (h : advance (depth, place) c = some (d, p)) (s : List Char) :
    closing? depth place (c :: s) = keep c (closing? d p s) := by
  cases place with
  | code =>
    simp only [advance] at h
    split at h
    next hc =>
      cases h
      simp [closing?, hc]
    next hopen =>
      split at h
      next hc =>
        split at h
        next => cases h
        next hd =>
          cases h
          simp [closing?, hc, hd]
      next hclose =>
        cases h
        simp [closing?, hopen, hclose]
  | quoted q | escaped q =>
    cases h
    simp [closing?]

theorem closing_ends (h : advance (depth, place) c = none) :
    depth = 0 ∧ place = .code ∧ c = '\x7d' := by
  cases place with
  | code =>
    simp only [advance] at h
    split at h
    next => cases h
    next =>
      split at h
      next hc =>
        split at h
        next hd => exact ⟨hd, rfl, hc⟩
        next => cases h
      next => cases h
  | quoted q | escaped q => cases h

/-- A body is closed by the brace behind it just where its reader comes back to code with no brace
open. -/
theorem closing_iff :
    closing? depth place s = some (body, rest) ↔
      s = body ++ '\x7d' :: rest ∧ body.foldlM advance (depth, place) = some (0, .code) := by
  constructor
  · intro h
    induction s generalizing depth place body with
    | nil => cases h
    | cons c s ih =>
      cases hc : advance (depth, place) c with
      | none =>
        obtain ⟨rfl, rfl, rfl⟩ := closing_ends hc
        simp only [closing?] at h
        cases h
        exact ⟨rfl, rfl⟩
      | some state =>
        rw [closing_step hc] at h
        obtain ⟨b, hb, rfl⟩ := keep_eq_some h
        obtain ⟨rfl, hread⟩ := ih hb
        exact ⟨rfl, by rw [List.foldlM_cons, hc]; exact hread⟩
  · rintro ⟨rfl, h⟩
    induction body generalizing depth place with
    | nil =>
      cases h
      simp [closing?]
    | cons c body ih =>
      rw [List.foldlM_cons] at h
      obtain ⟨state, hc, hread⟩ := Option.bind_eq_some_iff.mp h
      rw [List.cons_append, closing_step hc, ih hread]
      rfl

theorem closed_append {body' : List Char} (h : Closed body) (h' : Closed body') :
    Closed (body ++ body') := by
  rw [Closed, List.foldlM_append, h]
  exact h'

def Inert (c : Char) : Prop := c ∉ ['\'', '"', '\x7b', '\x7d']

def Place.Quotes : Place → Prop
  | .code => True
  | .quoted q => q = '\'' ∨ q = '"'
  | .escaped q => q = '\'' ∨ q = '"'

theorem advance_quotes (hp : place.Quotes) (h : advance (depth, place) c = some (d, p)) :
    p.Quotes := by
  cases place with
  | code =>
    simp only [advance, Place.after] at h
    split at h
    next => cases h; trivial
    next =>
      split at h
      next =>
        split at h
        next => cases h
        next => cases h; trivial
      next =>
        cases h
        split
        next hc => exact hc
        next => trivial
  | quoted q =>
    cases h
    simp only [Place.after]
    split
    next => exact hp
    next =>
      split
      next => trivial
      next => exact hp
  | escaped q =>
    cases h
    exact hp

theorem read_quotes (hp : place.Quotes) (h : s.foldlM advance (depth, place) = some (d, p)) :
    p.Quotes := by
  induction s generalizing depth place with
  | nil => cases h; exact hp
  | cons c s ih =>
    rw [List.foldlM_cons] at h
    obtain ⟨⟨d', p'⟩, hc, hread⟩ := Option.bind_eq_some_iff.mp h
    exact ih (advance_quotes hp hc) hread

theorem class_inert {p : Char → Bool} (hp : ['\'', '"', '\x7b', '\x7d'].all (!p ·) = true)
    (hc : p c = true) : Inert c := by
  intro hin
  have hno := List.all_eq_true.mp hp c hin
  simp [hc] at hno

theorem inert_code (hc : Inert c) : advance (depth, .code) c = some (depth, .code) := by
  simp_all [Inert, advance, Place.after]

theorem inert_passed (hs : ∀ c ∈ s, Inert c) :
    s.foldlM advance (depth, .code) = some (depth, .code) := by
  induction s with
  | nil => rfl
  | cons c s ih =>
    rw [List.foldlM_cons, inert_code (hs c (by simp))]
    exact ih fun c hc => hs c (by simp [hc])

theorem inert_kept (hs : ∀ c ∈ s, Inert c) (hp : place.Quotes)
    (h : s.foldlM advance (depth, place) = some (d, .code)) : depth = d ∧ place = .code := by
  induction s generalizing depth place with
  | nil =>
    cases h
    exact ⟨rfl, rfl⟩
  | cons c s ih =>
    obtain ⟨hc, hrest⟩ := List.forall_mem_cons.mp hs
    rw [List.foldlM_cons] at h
    obtain ⟨⟨d', p'⟩, hstep, hread⟩ := Option.bind_eq_some_iff.mp h
    obtain ⟨rfl, rfl⟩ := ih hrest (advance_quotes hp hstep) hread
    cases place with
    | code =>
      rw [inert_code hc] at hstep
      cases hstep
      exact ⟨rfl, rfl⟩
    | quoted q =>
      have hq : c ≠ q := by
        rintro rfl
        rcases hp with rfl | rfl <;> simp [Inert] at hc
      simp only [advance, Place.after, if_neg hq, Option.some.injEq, Prod.mk.injEq] at hstep
      split at hstep <;> exact absurd hstep.2 nofun
    | escaped q => cases hstep

theorem closed_behind {x : List Char} (hx : ∀ c ∈ x, Inert c) : Closed (x ++ s) ↔ Closed s := by
  rw [Closed, List.foldlM_append, inert_passed hx]
  exact Iff.rfl

theorem closed_front {x : List Char} (hx : ∀ c ∈ x, Inert c) (h : Closed (s ++ x)) : Closed s := by
  rw [Closed, List.foldlM_append] at h
  obtain ⟨⟨d, p⟩, hs, hread⟩ := Option.bind_eq_some_iff.mp h
  have hcode : Place.code.Quotes := trivial
  obtain ⟨rfl, rfl⟩ := inert_kept hx (read_quotes hcode hs) hread
  exact hs

theorem interpolation_source (body : List Char) :
    (Segment.interpolation body).source = '$' :: '\x7b' :: (body ++ ['\x7d']) := rfl

def Quiet (s : List Char) : Prop := ¬['$', '\x7b'] <:+: s

theorem quiet_nil : Quiet [] := by simp [Quiet]

theorem next_found (hq : Quiet before) (hc : Closed body) (rest : List Char) :
    next? (before ++ (Segment.interpolation body).source ++ rest) = some (before, body, rest) := by
  induction before with
  | nil =>
    have hclosing : closing? 0 .code (body ++ '\x7d' :: rest) = some (body, rest) :=
      closing_iff.mpr ⟨rfl, hc⟩
    simp [interpolation_source, next?, hclosing]
  | cons c before ih =>
    have hrest : Quiet before := fun h => hq (h.trans (List.suffix_cons c before).isInfix)
    obtain ⟨e, t, ht⟩ : ∃ e t, before ++ (Segment.interpolation body).source ++ rest = e :: t := by
      cases before with
      | nil => exact ⟨_, _, rfl⟩
      | cons e before => exact ⟨_, _, rfl⟩
    have hno : ¬(c = '$' ∧ e = '\x7b') := by
      rintro ⟨rfl, rfl⟩
      cases before with
      | nil => cases ht
      | cons e before =>
        obtain ⟨rfl, -⟩ := List.cons.inj ht
        exact hq ⟨[], before, rfl⟩
    have hnext := ih hrest
    rw [ht] at hnext
    rw [List.cons_append, List.cons_append, ht, next?, if_neg hno, hnext]
    rfl

theorem of_next (h : next? s = some (before, body, rest)) :
    s = before ++ (Segment.interpolation body).source ++ rest ∧ Quiet before ∧ Closed body := by
  fun_induction next? s generalizing before with
  | case1 => cases h
  | case2 => cases h
  | case3 c d s hopen =>
    obtain ⟨⟨b, r⟩, hb, heq⟩ := Option.map_eq_some_iff.mp h
    simp only [Prod.mk.injEq] at heq
    obtain ⟨rfl, rfl, rfl⟩ := heq
    obtain ⟨rfl, rfl⟩ := hopen
    obtain ⟨rfl, hread⟩ := closing_iff.mp hb
    exact ⟨by simp [interpolation_source], quiet_nil, hread⟩
  | case4 c d s hopen ih =>
    obtain ⟨⟨b, r, t⟩, hb, heq⟩ := Option.map_eq_some_iff.mp h
    simp only [Prod.mk.injEq] at heq
    obtain ⟨rfl, rfl, rfl⟩ := heq
    obtain ⟨hs, hquiet, hclosed⟩ := ih hb
    refine ⟨by rw [hs]; rfl, ?_, hclosed⟩
    intro hinfix
    rcases List.infix_cons_iff.mp hinfix with hprefix | hinfix
    · obtain ⟨x, hx⟩ := hprefix
      obtain ⟨rfl, rfl⟩ := List.cons.inj hx
      exact hopen ⟨rfl, (List.cons.inj hs).1⟩
    · exact hquiet hinfix

theorem segments_text (h : next? s = none) : segments s = textSegment s := by
  rw [segments]
  split <;> simp_all

theorem segments_next (h : next? s = some (before, body, rest)) :
    segments s = textSegment before ++ .interpolation body :: segments rest := by
  rw [segments]
  split <;> simp_all

theorem segments_found (hquiet : Quiet before) (hclosed : Closed body) (rest : List Char) :
    segments (before ++ (Segment.interpolation body).source ++ rest) =
      textSegment before ++ .interpolation body :: segments rest :=
  segments_next (next_found hquiet hclosed rest)

theorem segments_alone (hc : Closed body) :
    segments (Segment.interpolation body).source = [.interpolation body] := by
  have hempty : segments [] = [] := segments_text rfl
  have hfound := segments_found quiet_nil hc []
  rw [List.nil_append, List.append_nil, hempty] at hfound
  exact hfound

theorem bodies_closed (h : .interpolation body ∈ segments s) : Closed body := by
  have htext : ∀ t : List Char, .interpolation body ∉ textSegment t := by
    intro t
    unfold textSegment
    split <;> simp
  fun_induction segments s with
  | case1 s hnext => exact absurd h (htext s)
  | case2 s before b rest hnext ih =>
    rcases List.mem_append.mp h with h | h
    · exact absurd h (htext before)
    · rcases List.mem_cons.mp h with heq | h
      · cases heq
        exact (of_next hnext).2.2
      · exact ih h

theorem text_expanded (xml : Bool) (t : List Char) :
    (textSegment t).map (Segment.expanded xml) = textSegment t ∧ join (textSegment t) = t := by
  unfold textSegment
  split
  next hempty => simp [join, List.isEmpty_iff.mp hempty]
  next => simp [join, Segment.expanded, Segment.source]

theorem join_append (parts parts' : List Segment) :
    join (parts ++ parts') = join parts ++ join parts' :=
  List.flatMap_append

/-- A template whose bodies are expanded to closed ones is split as before. -/
theorem segments_expanded {xml : Bool}
    (h : ∀ body, .interpolation body ∈ segments s → Closed (expand xml body)) :
    segments (join ((segments s).map (Segment.expanded xml))) =
      (segments s).map (Segment.expanded xml) := by
  fun_induction segments s with
  | case1 s hnext =>
    obtain ⟨hmap, hjoin⟩ := text_expanded xml s
    rw [hmap, hjoin, segments_text hnext]
  | case2 s before body rest hnext ih =>
    obtain ⟨hmap, hjoin⟩ := text_expanded xml before
    obtain ⟨-, hquiet, -⟩ := of_next hnext
    have hrest := ih fun b hb => h b (by simp [hb])
    have hfound := segments_found hquiet (h body (by simp))
      (join ((segments rest).map (Segment.expanded xml)))
    have hsource : join ((textSegment before ++ .interpolation body :: segments rest).map
        (Segment.expanded xml)) = before ++ (Segment.interpolation (expand xml body)).source ++
          join ((segments rest).map (Segment.expanded xml)) := by
      rw [List.map_append, hmap, join_append, hjoin, List.append_assoc]
      rfl
    rw [hsource, hfound, hrest, List.map_append, hmap]
    rfl

end ActionDispatch.Template
