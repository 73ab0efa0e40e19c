import ActionDispatch.Proofs.Query.Conditions
import ActionDispatch.Proofs.Text.Cut

/-!
# The dialect of select texts

`SELECT`, a projection, `FROM`, a model, an alias if there is one, and conditions behind `WHERE` if
there are any, with white space of any length between them and the keywords in any letter case. Such
a text is read as the query that it spells.
-/

set_option autoImplicit false

namespace ActionDispatch.Query
open Text

def projectionText (rowName : List Char) : List String → List Char
  | [] => rowName
  | name :: path => fieldText rowName (name :: path)

inductive Alias : List Char → List Char → Prop
  | given {g rowName : List Char} (hg : Gap g) (hr : IsWord rowName) : Alias rowName (g ++ rowName)
  | omitted : Alias defaultName []

inductive Restriction (rowName : List Char) : List Condition → List Char → Prop
  | given {cs : List Condition} {g k g' s w : List Char} (hg : Gap g) (hk : Keyword "where" k)
      (hg' : Gap g') (hs : Conjunction rowName cs s) (hw : Blanks w) :
      Restriction rowName cs (g ++ k ++ g' ++ (s ++ w))
  | none {w : List Char} (hw : Blanks w) : Restriction rowName [] w

inductive Select.Spelled : Select → List Char → Prop
  | intro {model : String} {projection : List String} {conditions : List Condition}
      {rowName lead k g g' k' g'' a e : List Char} (hlead : Blanks lead) (hk : Keyword "select" k)
      (hg : Gap g) (hp : projection = [] ∨ FieldPath projection) (hg' : Gap g')
      (hk' : Keyword "from" k') (hg'' : Gap g'') (hm : IsPath model.toList) (ha : Alias rowName a)
      (he : Restriction rowName conditions e) :
      Spelled ⟨model, projection, conditions⟩
        (lead ++ (k ++ (g ++ (projectionText rowName projection ++
          (g' ++ k' ++ g'' ++ (model.toList ++ (a ++ e)))))))

theorem alias_word {rowName a : List Char} (h : Alias rowName a) : IsWord rowName := by
  cases h with
  | given _ hr => exact hr
  | omitted => decide

theorem restriction_ends {p : Char → Bool} (hp : ∀ c, isBlank c = true → p c = false)
    {rowName e : List Char} {cs : List Condition} (h : Restriction rowName cs e) : EndsRun p e := by
  cases h with
  | @given cs g k g' s w hg =>
    simpa using gap_ends hp hg (k ++ g' ++ (s ++ w))
  | none hw => simpa using ends_append hp hw (s := []) rfl

theorem model_ends {rowName a e : List Char} {cs : List Condition} (ha : Alias rowName a)
    (he : Restriction rowName cs e) : EndsRun isPathChar (a ++ e) := by
  cases ha with
  | given hg => simpa using gap_ends_path hg (rowName ++ e)
  | omitted => exact restriction_ends (fun _ hc => blank_not_path hc) he

theorem conjunction_begins {rowName s : List Char} {cs : List Condition}
    (h : Conjunction rowName cs s) : ∃ r, s = rowName ++ '.' :: r := by
  have hcondition : ∀ {c : Condition} {s : List Char}, c.Spelled rowName s →
      ∃ r, s = rowName ++ '.' :: r := by
    rintro _ _ ⟨⟩
    exact ⟨_, by rw [fieldText, List.append_assoc, List.cons_append]⟩
  cases h with
  | one hc => exact hcondition hc
  | cons hc =>
    obtain ⟨r, rfl⟩ := hcondition hc
    exact ⟨_, by rw [List.append_assoc, List.cons_append]⟩

def readConditions (rowName : List Char) : Option (List Char) → Except QueryError (List Condition)
  | some s => Condition.parseAll rowName s
  | none => .ok []

theorem behind_read {rowName a e : List Char} {cs : List Condition} (ha : Alias rowName a)
    (he : Restriction rowName cs e) :
    ∃ name found, behindModel? (a ++ e) = some (name, found) ∧ name.getD defaultName = rowName ∧
      readConditions rowName found = .ok cs := by
  have hr := alias_word ha
  cases ha with
  | given hg =>
    have hends := restriction_ends (fun _ hc => blank_not_word hc) he
    rw [List.append_assoc]
    cases he with
    | given hg' hk hg'' hs hw =>
      exact ⟨_, _, behind_alias hg hr hends (ending_where hg' hk hg'' (conjunction_solid hr hs) hw),
        rfl, conjunction_read hr hs⟩
    | none hw => exact ⟨_, _, behind_alias hg hr hends (ending_blank hw), rfl, rfl⟩
  | omitted =>
    cases he with
    | @given _ _ _ _ s w hg hk hg' hs hw =>
      have hno : afterKeyword? "where".toList (s ++ w) = none := by
        obtain ⟨r, rfl⟩ := conjunction_begins hs
        rfl
      exact ⟨_, _, behind_where hg hk hg' (conjunction_solid hr hs) hw hno, rfl,
        conjunction_read hr hs⟩
    | none hw => exact ⟨_, _, behind_blank hw, rfl, rfl⟩

theorem projection_isPath {rowName : List Char} (hr : IsWord rowName) {path : List String}
    (hp : path = [] ∨ FieldPath path) : IsPath (projectionText rowName path) := by
  rcases hp with rfl | hp
  · exact word_path hr
  · obtain ⟨name, path, rfl⟩ := List.exists_cons_of_ne_nil hp.ne_nil
    refine ⟨by simp [projectionText, fieldText], fun c hc => ?_⟩
    rcases List.mem_append.mp hc with hc | hc
    · exact (word_path hr).path c hc
    · rcases List.mem_cons.mp hc with rfl | hc
      · rfl
      · exact (pathText_isPath hp).path c hc

theorem projection_read (rowName : List Char) {path : List String}
    (hp : path = [] ∨ FieldPath path) :
    projectionPath? rowName (projectionText rowName path) = some path := by
  rcases hp with rfl | hp
  · simp [projectionPath?, projectionText]
  · obtain ⟨name, path, rfl⟩ := List.exists_cons_of_ne_nil hp.ne_nil
    have hne : fieldText rowName (name :: path) ≠ rowName := by simp [fieldText]
    have hafter : after? (rowName ++ ['.']) (fieldText rowName (name :: path)) =
        some (pathText (name :: path)) := by
      simpa [fieldText] using after_self (rowName ++ ['.']) (pathText (name :: path))
    simp [projectionPath?, projectionText, hne, hafter, pathNames_text hp]

theorem Select.parse_eq (text : String) :
    Select.parse text =
      match Clauses.parse? text.toList with
      | none => .error (.invalid text)
      | some ⟨projection, model, name, found⟩ =>
        match projectionPath? (name.getD defaultName) projection with
        | none => .error (.invalid ("unknown projection: " ++ String.ofList projection))
        | some path =>
          (readConditions (name.getD defaultName) found).map fun conditions =>
            ⟨String.ofList model, path, conditions⟩ := by
  rw [Select.parse]
  rcases Clauses.parse? text.toList with _ | ⟨projection, model, name, _ | found⟩ <;> rfl

/-- A text is read as the query that it spells. -/
theorem select_read {q : Select} {text : String} (h : q.Spelled text.toList) :
    Select.parse text = .ok q := by
  generalize hs : text.toList = s at h
  cases h with
  | intro hlead hk hg hp hg' hk' hg'' hm ha he =>
    obtain ⟨name, found, hbehind, hname, hfound⟩ := behind_read ha he
    have hclauses := clauses_read hlead hk hg (projection_isPath (alias_word ha) hp) hg' hk' hg'' hm
      (model_ends ha he) hbehind
    rw [Select.parse_eq, hs, hclauses]
    simp only [hname, projection_read _ hp, hfound, Except.map, String.ofList_toList]

end ActionDispatch.Query
