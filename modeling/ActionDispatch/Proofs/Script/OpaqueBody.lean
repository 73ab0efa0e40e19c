import ActionDispatch.Proofs.Script.Beginnings

/-!
# Which bodies are opaque

A body between three quotes is read as one string just where it has no three quotes in it and none
at its end. Any other body is cut off too early: whatever is read then begins with a shorter string,
since parsers go on with what they have read and never take it back.
-/

set_option autoImplicit false

namespace ActionDispatch.Script
open Text

theorem cut_short {body : List Char} (hq : ¬Quotable body) (s : List Char) :
    ∃ content r, cut? quotes (body ++ quotes ++ s) = some (content, r) ∧ content ≠ body := by
  obtain ⟨content, r, hcut, -⟩ := cut_first quotes body s
  refine ⟨content, r, hcut, ?_⟩
  rintro rfl
  obtain rfl : s = r := List.append_cancel_left (of_cut hcut)
  exact hq ((cut_quotes content s).mp hcut)

theorem body_curtailed {levels : Nat} {body : String} {ts : List Word} {s : List Char}
    (hq : ¬Quotable (strip body).toList) (h : Ahead (bodyWord body :: ts) s) :
    BeginsWith (expression (levels + 1)) s (Curtailed (strip body).toList) := by
  obtain ⟨r, hskip, -⟩ := ahead_cons h
  obtain ⟨content, r', hcut, hne⟩ := cut_short hq r
  refine expression_begins (opens_no_mark (body_opens body) h)
    (primary_begins (r := r') ⟨content, hne, rfl⟩ ?_)
  rw [hskip, bodyWord, List.append_assoc, List.append_assoc,
    ← List.append_assoc (strip body).toList, quotes_primary _ hcut]

/-- Only a body that can be quoted is the argument of a call on it. -/
theorem wrapped_quotable {first body : String} {members : List String}
    (hf : isFreeName first = true) (hm : ∀ member ∈ members, isName member.toList = true)
    (hw : Wraps body)
    (h : parse (Expression.asCall (".".intercalate (first :: members)) body) =
      .ok (callOf first members [.literal (.string (strip body))])) :
    Quotable (strip body).toList := by
  refine Classical.byContradiction fun hq => ?_
  have hahead : Ahead (pathWords first members ++ ['('] :: [bodyWord body, [')']])
      (Expression.asCall (".".intercalate (first :: members)) body).toList := wrapped_ahead hf hm hw
  exact curtailed_argument (parsed_arguments hf hm hahead
    (fun _ _ _ _ => arguments_begin fun _ => body_curtailed hq) h)

/-- A method call on the body of an expression has the trimmed body as its only argument just where
the body has no three quotes in it and none at its end. -/
theorem wrapped_body_opaque (first body : String) (members : List String)
    (hf : isFreeName first = true) (hm : ∀ member ∈ members, isName member.toList = true)
    (hlen : members.length < maxNesting) (hp : (strip body).toList.head? ≠ some '(')
    (hd : Expression.isQuoted (strip body).toList = false) :
    parse (Expression.asCall (".".intercalate (first :: members)) body) =
        .ok (callOf first members [.literal (.string (strip body))]) ↔
      ¬quotes <:+: (strip body).toList ∧ (strip body).toList.getLast? ≠ some '"' :=
  ⟨wrapped_quotable hf hm ⟨hp, hd⟩, wrapped_parses hf hm hlen ⟨hp, hd⟩⟩

theorem wrapped_body_opaque_signs :
    parse (Expression.asCall "order.lines.find" " code != \"x', [\" || f(1 ") =
      .ok (.invoke (.property (.name "order") "lines" false) "find"
        [.literal (.string "code != \"x', [\" || f(1")] false) := by
  have hiff :=
    wrapped_body_opaque "order" " code != \"x', [\" || f(1 " ["lines", "find"] (by decide)
    (by decide) (by decide) (by decide) (by decide)
  have hstrip : strip " code != \"x', [\" || f(1 " = "code != \"x', [\" || f(1" := by decide
  have hpath : ".".intercalate ["order", "lines", "find"] = "order.lines.find" := by decide
  have hcall : ∀ args, callOf "order" ["lines", "find"] args =
      .invoke (.property (.name "order") "lines" false) "find" args false := fun _ => rfl
  have hthree : ¬quotes <:+: "code != \"x', [\" || f(1".toList :=
    fun h => absurd (h.sublist.count_le '"') (by decide)
  rw [hstrip, hpath, hcall] at hiff
  exact hiff.mpr ⟨hthree, by decide⟩

/-- Three quotes in a body end the string in front of them. -/
theorem quotes_in_body_read :
    (strip "a\"\"\" + \"\"\"b").toList.head? ≠ some '(' ∧
      Expression.isQuoted (strip "a\"\"\" + \"\"\"b").toList = false ∧
      parse (Expression.asCall "find" "a\"\"\" + \"\"\"b") ≠
        .ok (.call "find" [.literal (.string "a\"\"\" + \"\"\"b")]) := by
  have hstrip : strip "a\"\"\" + \"\"\"b" = "a\"\"\" + \"\"\"b" := by decide
  have hpath : ".".intercalate ["find"] = "find" := by decide
  have hquotes : quotes <:+: "a\"\"\" + \"\"\"b".toList := ⟨['a'], " + \"\"\"b".toList, by decide⟩
  refine ⟨by decide, by decide, fun h => ?_⟩
  have hcall : parse (Expression.asCall (".".intercalate ["find"]) "a\"\"\" + \"\"\"b") =
      .ok (callOf "find" [] [.literal (.string (strip "a\"\"\" + \"\"\"b"))]) := by
    rw [hstrip, hpath]
    exact h
  have hquotable := wrapped_quotable (by decide) (by simp) ⟨by decide, by decide⟩ hcall
  rw [hstrip] at hquotable
  exact hquotable.1 hquotes

end ActionDispatch.Script
