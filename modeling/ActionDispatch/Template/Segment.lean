/-!
# Segments of templates

A template is text with interpolations `$\x7b…\x7d`. An interpolation ends at the first closing
brace outside of strings that no opening brace in it has claimed. One that does not end is text,
with all that follows.
-/

set_option autoImplicit false

namespace ActionDispatch.Template

inductive Segment where
  | text (s : List Char)
  | interpolation (body : List Char)
deriving DecidableEq, Repr

inductive Place where
  | code
  | quoted (quote : Char)
  | escaped (quote : Char)
deriving DecidableEq, Repr

def Place.after (c : Char) : Place → Place
  | .code => if c = '\'' ∨ c = '"' then .quoted c else .code
  | .quoted quote => if c = '\\' then .escaped quote else if c = quote then .code else .quoted quote
  | .escaped quote => .quoted quote

def keep (c : Char) (found : Option (List Char × List Char)) : Option (List Char × List Char) :=
  found.map fun (body, rest) => (c :: body, rest)

def closing? (depth : Nat) (place : Place) : List Char → Option (List Char × List Char)
  | [] => none
  | c :: rest =>
    if place = .code ∧ c = '\x7b' then keep c (closing? (depth + 1) .code rest)
    else if place = .code ∧ c = '\x7d' then
      if depth = 0 then some ([], rest) else keep c (closing? (depth - 1) .code rest)
    else keep c (closing? depth (place.after c) rest)

def next? : List Char → Option (List Char × List Char × List Char)
  | [] => none
  | [_] => none
  | c :: d :: rest =>
    if c = '$' ∧ d = '\x7b' then (closing? 0 .code rest).map fun (body, rest) => ([], body, rest)
    else (next? (d :: rest)).map fun (before, body, rest) => (c :: before, body, rest)

theorem keep_eq_some {c : Char} {found : Option (List Char × List Char)} {body rest : List Char}
    (h : keep c found = some (body, rest)) : ∃ b, found = some (b, rest) ∧ body = c :: b := by
  obtain ⟨⟨b, r⟩, hb, he⟩ := Option.map_eq_some_iff.1 h
  obtain ⟨rfl, rfl⟩ := Prod.mk.inj he
  exact ⟨b, hb, rfl⟩

theorem length_of_closing? {depth : Nat} {place : Place} {s body rest : List Char}
    (h : closing? depth place s = some (body, rest)) : rest.length < s.length := by
  induction s generalizing depth place body with
  | nil => simp [closing?] at h
  | cons c s ih =>
    rw [closing?] at h
    split at h
    · obtain ⟨b, hb, -⟩ := keep_eq_some h
      exact Nat.lt_succ_of_lt (ih hb)
    · split at h
      · split at h
        · obtain ⟨-, rfl⟩ := Prod.mk.inj (Option.some.inj h)
          exact Nat.lt_succ_self _
        · obtain ⟨b, hb, -⟩ := keep_eq_some h
          exact Nat.lt_succ_of_lt (ih hb)
      · obtain ⟨b, hb, -⟩ := keep_eq_some h
        exact Nat.lt_succ_of_lt (ih hb)

theorem length_of_next? {s before body rest : List Char}
    (h : next? s = some (before, body, rest)) : rest.length < s.length := by
  fun_induction next? s generalizing before with
  | case1 => simp at h
  | case2 => simp at h
  | case3 c d s hd =>
    obtain ⟨⟨b, r⟩, hb, he⟩ := Option.map_eq_some_iff.1 h
    simp only [Prod.mk.injEq] at he
    obtain ⟨-, -, rfl⟩ := he
    have := length_of_closing? hb
    simp only [List.length_cons]
    omega
  | case4 c d s hd ih =>
    obtain ⟨⟨b, r, t⟩, hb, he⟩ := Option.map_eq_some_iff.1 h
    simp only [Prod.mk.injEq] at he
    obtain ⟨-, rfl, rfl⟩ := he
    exact Nat.lt_succ_of_lt (ih hb)

def textSegment (s : List Char) : List Segment :=
  if s.isEmpty then [] else [.text s]

def segments (s : List Char) : List Segment :=
  match _h : next? s with
  | none => textSegment s
  | some (before, body, rest) => textSegment before ++ .interpolation body :: segments rest
termination_by s.length
decreasing_by exact length_of_next? _h

def Segment.source : Segment → List Char
  | .text s => s
  | .interpolation body => '$' :: '\x7b' :: body ++ ['\x7d']

def join (segments : List Segment) : List Char :=
  segments.flatMap Segment.source

end ActionDispatch.Template
