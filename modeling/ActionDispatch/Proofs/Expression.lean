import ActionDispatch.Handler.Evaluate
import ActionDispatch.Proofs.Text.Cut
import ActionDispatch.Proofs.Text.Runs

/-!
# Reading expressions

A text names a kind by the word in front of its first colon. Behind the colon stands white space,
line ends included, and then the body, which reaches to the end of the text and has to be on one
line. What is not written like this is a literal, and is evaluated to itself.
-/

set_option autoImplicit false

namespace ActionDispatch

open Text

namespace Expression

/-- A text that names a kind: its word, a colon, white space, and the body on one line. All of the
white space in front of the body is counted to it. -/
structure Written (kind : Kind) (blanks body text : List Char) : Prop where
  text : text = kind.name.toList ++ ':' :: (blanks ++ body)
  blank : Blanks blanks
  solid : EndsRun isBlank body
  line : '\n' ∉ body

variable {kind kind' : Kind} {blanks body text : List Char}

/-- No word of a kind has a colon in it, so that the first colon of a text ends the word. -/
theorem word_before_colon (kind : Kind) (rest : List Char) :
    (kind.name.toList ++ ':' :: rest).takeWhile (· != ':') = kind.name.toList := by
  have hword : kind.name.toList.all (· != ':') = true := by cases kind <;> rfl
  have hcolon : EndsRun (· != ':') (':' :: rest) := by simp [EndsRun]
  exact (run_split (List.all_eq_true.mp hword) hcolon).1

theorem name_injective : Function.Injective Kind.name := by
  intro kind kind' h
  cases kind <;> cases kind' <;> simp_all [Kind.name]

theorem kind_unique {rest rest' : List Char}
    (h : kind.name.toList ++ ':' :: rest = kind'.name.toList ++ ':' :: rest') : kind = kind' := by
  have hword := congrArg (List.takeWhile (· != ':')) h
  rw [word_before_colon, word_before_colon] at hword
  exact name_injective (String.toList_injective hword)

theorem mem_namedKinds : kind ∈ namedKinds ↔ kind ≠ .literal := by
  cases kind <;> decide

theorem bodyFor_written (h : Written kind blanks body text) : bodyFor? kind text = some body := by
  have htext : text = (kind.name.toList ++ [':']) ++ (blanks ++ body) := by simp [h.text]
  have hafter : after? (kind.name.toList ++ [':']) text = some (blanks ++ body) := by
    rw [htext, after_self]
  have htrim : trimLeft (blanks ++ body) = body := trimLeft_blanks h.blank h.solid
  simp [bodyFor?, hafter, htrim, h.line]

theorem written_of_bodyFor (h : bodyFor? kind text = some body) :
    ∃ blanks, Written kind blanks body text := by
  unfold bodyFor? at h
  split at h
  · cases h
  next rest hafter =>
    have hline : '\n' ∉ trimLeft rest := by
      intro hin
      simp [hin] at h
    obtain rfl : trimLeft rest = body := by simpa [hline] using h
    refine ⟨rest.takeWhile isBlank, ?_, fun _ => List.mem_takeWhile_imp,
      endsRun_dropWhile isBlank rest, hline⟩
    rw [of_after hafter, trimLeft, List.takeWhile_append_dropWhile]
    simp

theorem parse_cases (s : String) :
    (∃ kind blanks body, kind ≠ .literal ∧ Written kind blanks body s.toList ∧
      parse s = ⟨kind, String.ofList body⟩) ∨ parse s = ⟨.literal, s⟩ := by
  unfold parse
  split
  next e hfound =>
    obtain ⟨kind, hkind, hmap⟩ := List.exists_of_findSome?_eq_some hfound
    obtain ⟨body, hbody, rfl⟩ := Option.map_eq_some_iff.mp hmap
    obtain ⟨blanks, hwritten⟩ := written_of_bodyFor hbody
    exact .inl ⟨kind, blanks, body, mem_namedKinds.mp hkind, hwritten, rfl⟩
  next => exact .inr rfl

theorem parse_named {s : String} (hkind : kind ≠ .literal) (h : Written kind blanks body s.toList) :
    (parse s).kind ≠ .literal := by
  have hbody := bodyFor_written h
  unfold parse
  split
  next e hfound =>
    obtain ⟨kind', hkind', hmap⟩ := List.exists_of_findSome?_eq_some hfound
    obtain ⟨body', -, rfl⟩ := Option.map_eq_some_iff.mp hmap
    exact mem_namedKinds.mp hkind'
  next hnone =>
    have hmissing := List.findSome?_eq_none_iff.mp hnone kind (mem_namedKinds.mpr hkind)
    simp [hbody] at hmissing

theorem parse_written {s : String} (hkind : kind ≠ .literal)
    (h : Written kind blanks body s.toList) : parse s = ⟨kind, String.ofList body⟩ := by
  rcases parse_cases s with ⟨kind', blanks', body', -, h', hparse⟩ | hliteral
  · obtain rfl : kind = kind' := kind_unique (h.text.symm.trans h'.text)
    have hbody := (bodyFor_written h).symm.trans (bodyFor_written h')
    rw [hparse, Option.some.inj hbody]
  · exact absurd (by rw [hliteral]) (parse_named hkind h)

/-- What stands behind the colon of a kind, if it is on one line, is the body, without the white
space in front of it. -/
theorem parse_line {s : String} {rest : List Char} (hkind : kind ≠ .literal)
    (hs : s.toList = kind.name.toList ++ ':' :: rest) (hline : '\n' ∉ rest) :
    parse s = ⟨kind, String.ofList (trimLeft rest)⟩ := by
  have hbody : '\n' ∉ trimLeft rest := fun h => hline ((List.dropWhile_sublist isBlank).subset h)
  have hrest : rest = rest.takeWhile isBlank ++ trimLeft rest :=
    List.takeWhile_append_dropWhile.symm
  have hwritten : Written kind (rest.takeWhile isBlank) (trimLeft rest) s.toList :=
    ⟨by rw [hs, ← hrest], fun _ => List.mem_takeWhile_imp, endsRun_dropWhile isBlank rest, hbody⟩
  exact parse_written hkind hwritten

theorem written_of_parse {s : String} (h : (parse s).kind = kind) (hkind : kind ≠ .literal) :
    ∃ blanks body, Written kind blanks body s.toList := by
  rcases parse_cases s with ⟨kind', blanks, body, -, hwritten, hparse⟩ | hliteral
  · obtain rfl : kind' = kind := by rw [← h, hparse]
    exact ⟨blanks, body, hwritten⟩
  · rw [hliteral] at h
    exact absurd h.symm hkind

theorem parse_unwritten {s : String}
    (h : ∀ kind blanks body, kind ≠ .literal → ¬Written kind blanks body s.toList) :
    parse s = ⟨.literal, s⟩ := by
  rcases parse_cases s with ⟨kind, blanks, body, hkind, hwritten, -⟩ | hliteral
  · exact absurd hwritten (h kind blanks body hkind)
  · exact hliteral

end Expression

namespace Handler

theorem evaluate_literal (h : Handler) (fuel : Nat) {s : String}
    (hs : Expression.parse s = ⟨.literal, s⟩) :
    h.evaluate (fuel + 1) s =
      if s = "" then pure .null
      else ⟨[.dispatched ⟨.literal, s⟩ 0], .done (.value (.string s))⟩ := by
  rw [evaluate, evaluateAt, hs]
  by_cases hempty : s = ""
  · simp [hempty]
  · simp [hempty]
    rfl

end Handler

namespace Expression

/-- A text has a kind other than that of literals just where it is written as one of this kind, and
then its body is what stands behind the white space; any other text is a literal, its body is the
whole text, and a handler gives it back as it is, or null if it is empty. -/
theorem expression_of_text (s : String) :
    (∀ kind, kind ≠ .literal →
      ((parse s).kind = kind ↔ ∃ blanks body, Written kind blanks body s.toList) ∧
      ∀ blanks body, Written kind blanks body s.toList → (parse s).body.toList = body) ∧
    ((∀ kind blanks body, kind ≠ .literal → ¬Written kind blanks body s.toList) →
      parse s = ⟨.literal, s⟩ ∧
      ∀ (h : Handler) (fuel : Nat), h.evaluate (fuel + 1) s =
        if s = "" then pure .null
        else ⟨[.dispatched ⟨.literal, s⟩ 0], .done (.value (.string s))⟩) := by
  refine ⟨fun kind hkind => ⟨⟨fun hparse => written_of_parse hparse hkind, ?_⟩, ?_⟩,
    fun hnone => ?_⟩
  · rintro ⟨blanks, body, hwritten⟩
    rw [parse_written hkind hwritten]
  · intro blanks body hwritten
    rw [parse_written hkind hwritten, String.toList_ofList]
  · have hliteral := parse_unwritten hnone
    exact ⟨hliteral, fun h fuel => h.evaluate_literal fuel hliteral⟩

theorem expression_of_text_lines :
    (parse "select[]:\n\t self FROM Order ").kind = .selectAll ∧
      (parse "select[]:\n\t self FROM Order ").body.toList = "self FROM Order ".toList ∧
      ∀ h : Handler, h.evaluate 1 "action: save\n" =
        ⟨[.dispatched ⟨.literal, "action: save\n"⟩ 0],
          .done (.value (.string "action: save\n"))⟩ := by
  have hselect : Written .selectAll "\n\t ".toList "self FROM Order ".toList
      "select[]:\n\t self FROM Order ".toList := ⟨by decide, by decide, rfl, by decide⟩
  obtain ⟨hkind, hbody⟩ := (expression_of_text _).1 .selectAll (by decide)
  refine ⟨hkind.mpr ⟨_, _, hselect⟩, hbody _ _ hselect, fun h => ?_⟩
  obtain ⟨hnamed, hother⟩ := expression_of_text "action: save\n"
  have hnone : ∀ kind blanks body, kind ≠ .literal →
      ¬Written kind blanks body "action: save\n".toList := by
    intro kind blanks body hkind hwritten
    have hread := (hnamed kind hkind).1.mpr ⟨blanks, body, hwritten⟩
    exact hkind (hread.symm.trans (by decide))
  exact (hother hnone).2 h 0

end Expression

end ActionDispatch
