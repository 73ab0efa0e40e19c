import ActionDispatch.Application.Basic
import ActionDispatch.Proofs.Handler.Selects
import ActionDispatch.Proofs.Query.Dialect
import ActionDispatch.Proofs.Script.Scope

/-!
# Searches

A search writes a script that describes a query, and fetches the row of what the script has yielded.
With a record store it does what the select text with the same model and filter does: the script
hands the trimmed filter over as it is, and both ways read it as conditions on rows named `self`.
-/

set_option autoImplicit false

namespace ActionDispatch

open Text

namespace Script

def allOf (first : String) (members : List String) : Expr :=
  .invoke (pathOf first members) "all" [] false

theorem allOf_writable {first : String} {members : List String} (hf : isFreeName first = true)
    (hm : ∀ member ∈ members, isName member.toList = true) :
    (allOf first members).writable = true := by
  have hall : isName "all".toList = true := by decide
  rw [allOf, Expr.writable, path_writable hf hm, hall]
  rfl

theorem allOf_within (first : String) (members : List String) :
    (allOf first members).wordsWithin 0 =
      pathWords first (members ++ ["all"]) ++ [['('], [')']] := by
  have hwords : (allOf first members).words =
      (pathOf first members).wordsWithin 0 ++ [['.'], "all".toList, ['('], [')']] := by
    rw [allOf, Expr.words, wordsOfEach, List.append_assoc]
    rfl
  have hplain : (allOf first members).wordsWithin 0 = (allOf first members).words := rfl
  rw [hplain, hwords, path_within, pathWords_concat, List.append_assoc]
  rfl

def filterOf (first : String) (members : List String) (body : String) : Expr :=
  .invoke (allOf first members) "filter" [.literal (.string (strip body))] false

def filterWords (first : String) (members : List String) (body : String) : List Word :=
  (allOf first members).wordsWithin 0 ++
    [['.'], "filter".toList, ['('], bodyWord body, [')']]

theorem search_text {first body : String} {members : List String} (hw : Wraps body) :
    (Handler.searchScript (".".intercalate (first :: members)) body).toList =
      (filterWords first members body).flatten := by
  have hcall : (Expression.asCall "filter" body).toList =
      "filter".toList ++ '(' :: bodyWord body ++ [')'] := by
    simpa [pathWords] using wrapped_text hw "filter" []
  have hall : ".all().".toList = ['.'] ++ "all".toList ++ ['(', ')', '.'] := by decide
  rw [Handler.searchScript, String.toList_append, String.toList_append, hcall, hall, path_text,
    filterWords, allOf_within, pathWords_concat]
  simp

theorem search_nesting {first body : String} {members : List String}
    (hf : isName first.toList = true)
    (hm : ∀ member ∈ members, isName member.toList = true) (hq : Quotable (strip body).toList) :
    nesting (filterWords first members body).flatten = members.length + 3 := by
  have hall : isName "all".toList = true := by decide
  have hpath : ∀ member ∈ members ++ ["all"], isName member.toList = true := by
    intro member hmem
    rcases List.mem_append.mp hmem with h | h
    · exact hm member h
    · rw [List.mem_singleton.mp h]
      exact hall
  have htext : (filterWords first members body).flatten =
      (pathWords first (members ++ ["all"])).flatten ++
        '(' :: (')' :: '.' :: ("filter".toList ++ '(' :: (bodyWord body ++ [')']))) := by
    simp [filterWords, allOf_within]
  have hfilter : marks ("filter".toList ++ '(' :: (bodyWord body ++ [')'])) =
      marks ('(' :: (bodyWord body ++ [')'])) :=
    name_passed (name_read (by decide) rfl)
  have hopen : marks ('(' :: (bodyWord body ++ [')'])) =
      .opening :: marks (bodyWord body ++ [')']) :=
    marks_counted (by decide) rfl
  have hclose : ∀ r, marks (')' :: r) = .closing :: marks r :=
    fun r => marks_counted (by decide) rfl
  have hpoint : ∀ r, marks ('.' :: r) = .operator :: marks r :=
    fun r => marks_counted (by decide) rfl
  rw [nesting_marks, htext, path_marks hf hpath, hclose, hpoint, hfilter, hopen, body_marks hq,
    List.foldl_append, operators_steps]
  simp [Levels.step, Levels.count]

theorem search_parses {first body : String} {members : List String} (hf : isFreeName first = true)
    (hm : ∀ member ∈ members, isName member.toList = true)
    (hlen : members.length + 3 ≤ maxNesting) (hw : Wraps body) (hq : Quotable (strip body).toList) :
    parse (Handler.searchScript (".".intercalate (first :: members)) body) =
      .ok (filterOf first members body) := by
  have hname : isName first.toList = true := by simp_all [isFreeName]
  have hall := allOf_writable hf hm
  have hmarks : AllSolid [['.'], "filter".toList, ['('], bodyWord body, [')']] := by
    simp only [all_solid_cons]
    exact ⟨rfl, rfl, rfl, rfl, rfl, all_solid_nil⟩
  have hahead : Ahead (filterWords first members body)
      (Handler.searchScript (".".intercalate (first :: members)) body).toList := by
    refine ⟨all_solid_append.mpr ⟨enclose_solid (words_solid _ hall) 0 _, hmarks⟩, ?_⟩
    rw [search_text hw]
    exact spells_flatten _
  have hcount := ahead_length hahead
  have hskip := ahead_skip hahead
  obtain ⟨t, us, hopen, hfirst⟩ := opens_append (operand_opens _ hall)
    [['.'], "filter".toList, ['('], bodyWord body, [')']]
  have hfront := hskip
  rw [filterWords, hopen] at hfront
  have hno := opens_no_mark hfirst hfront
  have hwords : filterWords first members body = (allOf first members).wordsWithin 0 ++
      (point false :: "filter".toList :: ['('] :: [bodyWord body, [')']]) ++ [] := by
    simp [filterWords, point]
  obtain ⟨levels, hlevels⟩ := Nat.exists_eq_add_of_le'
    (Nat.le_trans (by simp [filterWords] : 2 ≤ _) hcount)
  refine accepted_parses ?_ (by rw [search_text hw, search_nesting hname hm hq]; exact hlen)
  have hargs : ∀ r, Ahead (['('] :: [bodyWord body, [')']] ++ []) r →
      Accepts (arguments (expression (levels + 1))) [.literal (.string (strip body))] [] r := by
    intro r hr
    have hr : Ahead (['('] :: [bodyWord body] ++ [[')']]) r := hr
    exact argument_read (fun _ => body_read hq (by show [')'] ∈ stops 6; decide)) hr
  rw [hwords] at hskip hcount
  rw [hlevels] at hcount ⊢
  exact operand_accepted hno trivial
    (method_arrives hall (by decide) (by simpa using hcount) hargs hskip)

end Script

namespace Query

/-- The select text with a filter reads as the query that the filter describes. -/
theorem filter_text_read {model filter : String} (hm : IsPath model.toList)
    (hf : isBlankText filter.toList = false) :
    Select.parse (normalize ("self FROM " ++ model ++ " self WHERE " ++ filter)) =
      Select.ofQuery ⟨model, some (strip filter), []⟩ := by
  have hbody : Solid (trim filter.toList) := trim_solid hf
  obtain ⟨w, v, hw, hv, -, hsplit⟩ := blanks_around filter.toList
  have hself : IsWord "self".toList := by decide
  have hgap : Gap [' '] := by decide
  have hlead : Gap (' ' :: w) := ⟨by simp, fun c hc => by
    rcases List.mem_cons.mp hc with rfl | hc
    · rfl
    · exact hw c hc⟩
  let text := "self FROM " ++ model ++ " self WHERE " ++ filter
  have htrim : trim text.toList =
      "self".toList ++ ((" FROM ".toList ++ model.toList ++ " self WHERE ".toList ++ w) ++
        trim filter.toList) := by
    have hsolid := solid_around (path_solid (word_path hself))
      (" FROM ".toList ++ model.toList ++ " self WHERE ".toList ++ w) hbody
    have hwhole := trim_blanks (w := []) (by decide) hv hsolid
    rw [← hwhole]
    conv_lhs => rw [show text.toList = _ from String.toList_append, hsplit]
    simp
  have hread : Clauses.parse? (normalize text).toList =
      some ⟨"self".toList, model.toList, some "self".toList, some (trim filter.toList)⟩ := by
    have hselect : startsWithSelect (strip text).toList = false := by
      rw [strip, String.toList_ofList, htrim]
      rfl
    have hwhere : Keyword "where" "WHERE".toList := rfl
    have hnone : Blanks [] := by decide
    have hbehind := behind_alias hgap hself (by rfl) (ending_where hgap hwhere hlead hbody hnone)
    have hselect' : Keyword "select" "SELECT".toList := rfl
    have hfrom : Keyword "from" "FROM".toList := rfl
    have hclauses := clauses_read hnone hselect' hgap (word_path hself) hgap hfrom hgap hm (by rfl)
      hbehind
    rw [normalize, hselect, ← hclauses]
    simp [strip, htrim]
  have hfilter : trim (strip filter).toList = trim filter.toList := by
    rw [strip, String.toList_ofList, trim_trim]
  have hne : (trim filter.toList).isEmpty = false := by simpa using hbody.ne_nil
  rw [Select.parse, hread, Select.ofQuery, Option.getD_some, hfilter, hne]
  simp [projectionPath?, defaultName]

end Query

namespace Handler

/-- The script of a search yields the query that it describes. -/
theorem search_described {h : Handler} {first filter : String} {members : List String}
    (hf : Script.isFreeName first = true)
    (hm : ∀ member ∈ members, Script.isName member.toList = true)
    (hlen : members.length + 3 ≤ Script.maxNesting) (hw : Script.Wraps filter)
    (hq : Quotable (strip filter).toList) (hfree : h.bindings.contains first = false)
    (hme : ".".intercalate (first :: members) ≠ selfCallName) (nested : Nested) (search : Search)
    (depth : Nat) :
    h.script nested search (searchScript (".".intercalate (first :: members)) filter) depth =
      pure (.query (".".intercalate (first :: members)) (some (strip filter)) []) := by
  have hparse := Script.search_parses hf hm hlen hw hq
  have hpath := Script.path_static hfree members
  have hall : (Script.allOf first members).staticPath? h.bindings = none := rfl
  have hbuiltin : ∀ (model text : String),
      Script.builtin? (.query model none []) "filter" [.string text] = none := by
    intro model text
    rfl
  have hrows : (Script.allOf first members).eval h.bindings (h.host nested search depth) =
      pure (.query (".".intercalate (first :: members)) none []) := by
    rw [Script.allOf, Script.Expr.eval, hpath]
    simp only [host, Script.evalAll, Run.pure_bind, if_neg hme]
  have hfilter : (Script.filterOf first members filter).eval h.bindings
      (h.host nested search depth) =
      pure (.query (".".intercalate (first :: members)) (some (strip filter)) []) := by
    rw [Script.filterOf, Script.Expr.eval, hall, hrows]
    rfl
  rw [script, Script.evaluate, hparse]
  change Run.mapError _ ((Script.filterOf first members filter).eval _ _) = _
  rw [hfilter]
  rfl

/-- A model that scripts and select texts can name is a path of identifiers made of word
characters. -/
theorem model_isPath {first : String} {members : List String} (hf : Script.isFreeName first = true)
    (hword : ∀ name ∈ first :: members, ∀ c ∈ name.toList, isWordChar c = true) :
    Query.IsPath (".".intercalate (first :: members)).toList := by
  have hchar : ∀ name ∈ first :: members, ∀ c ∈ name.toList, Query.isPathChar c = true := by
    intro name hname c hc
    simp [Query.isPathChar, hword name hname c hc]
  rw [Script.path_text]
  constructor
  · have hne : first.toList ≠ [] := by
      intro hnil
      simp [Script.isFreeName, hnil, Script.isName] at hf
    simp [Script.pathWords, hne]
  · intro c hc
    simp only [Script.pathWords, List.flatten_cons, List.mem_append, List.mem_flatten,
      List.mem_flatMap] at hc
    rcases hc with hc | ⟨w, ⟨member, hmember, hw⟩, hc⟩
    · exact hchar first (by simp) c hc
    · rcases List.mem_pair.mp hw with rfl | rfl
      · rw [List.mem_singleton.mp hc]
        rfl
      · exact hchar member (by simp [hmember]) c hc

/-- Fetching a described query and selecting by a text come to the same where the engine prepares
the same from both. -/
theorem fetch_selects {h : Handler} {query : Query} {text : String}
    (htext : isBlankText text.toList = false)
    (hsame : h.services.queries.create (Query.normalize text) = h.services.queries.describe query) :
    (h.fetch query h.bindings).outcome = (h.selectOne text query.params).outcome := by
  simp only [fetch, selectOne, prepare, htext, hsame]
  cases h.services.queries.describe query with
  | error e => rfl
  | ok handle => rfl

/-- With a record store, a search comes to what the select text with its model and filter comes to,
a value or an error, for every filter that comes through the script as it is. -/
theorem search_selects {h : Handler} {store : RecordStore}
    (hstore : h.services.queries = store.engine)
    {first filter : String} {members : List String} (hf : Script.isFreeName first = true)
    (hm : ∀ member ∈ members, Script.isName member.toList = true)
    (hword : ∀ name ∈ first :: members, ∀ c ∈ name.toList, isWordChar c = true)
    (hlen : members.length + 3 ≤ Script.maxNesting) (hfree : h.bindings.contains first = false)
    (hme : ".".intercalate (first :: members) ≠ selfCallName)
    (hblank : isBlankText filter.toList = false)
    (hopen : (strip filter).toList.head? ≠ some '(')
    (hquoted : Expression.isQuoted (strip filter).toList = false)
    (hthree : ¬quotes <:+: (strip filter).toList)
    (hlast : (strip filter).toList.getLast? ≠ some '"')
    (fuel : Nat) :
    (h.search (fuel + 1) (".".intercalate (first :: members)) filter Table.empty).Ends ∧
      (h.search (fuel + 1) (".".intercalate (first :: members)) filter Table.empty).outcome =
        (h.selectOne
          ("self FROM " ++ ".".intercalate (first :: members) ++ " self WHERE " ++ filter)
          []).outcome := by
  generalize htext :
    "self FROM " ++ ".".intercalate (first :: members) ++ " self WHERE " ++ filter = text
  have hscript := search_described hf hm hlen ⟨hopen, hquoted⟩ ⟨hthree, hlast⟩ hfree hme
    (h.evaluateAt fuel) (h.searchAt fuel) 0
  have hread : Query.Select.parse (Query.normalize text) =
      Query.Select.ofQuery ⟨".".intercalate (first :: members), some (strip filter), []⟩ :=
    htext ▸ Query.filter_text_read (model_isPath hf hword) hblank
  have hsame : ∀ engine : QueryEngine, engine = store.engine →
      engine.create (Query.normalize text) =
        engine.describe ⟨".".intercalate (first :: members), some (strip filter), []⟩ := by
    rintro _ rfl
    simp only [RecordStore.engine, RecordStore.create, RecordStore.describe, hread]
  have hnonblank : isBlankText text.toList = false := by
    rw [← htext]
    simp [isBlankText, show isBlank 's' = false by decide]
  have hfetch :
      (h.search (fuel + 1) (".".intercalate (first :: members)) filter Table.empty).outcome =
      (h.selectOne text []).outcome := by
    rw [search, searchAt, hscript]
    exact fetch_selects hnonblank (hsame _ hstore)
  exact ⟨by rw [Run.Ends, hfetch]; exact h.selectOne_ends text [], hfetch⟩

theorem search_selects_order :
    (ofOneOrder.search 1 "Order" " self.state\n= null " Table.empty).outcome =
      .done (.map [("_model", .string "Order"), ("code", .string "A1")]) := by
  have hquotes : ¬quotes <:+: (strip " self.state\n= null ").toList :=
    fun h => absurd (h.sublist.count_le '"') (by decide)
  have hstore : ofOneOrder.services.queries =
      (RecordStore.ofRecords [("Order", [.map [("code", .string "A1")]])]).engine := rfl
  have hfree : Script.isFreeName "Order" = true := by decide
  have hnone : ∀ member ∈ ([] : List String), Script.isName member.toList = true := by simp
  have horder : Query.IsWord "Order".toList := by decide
  have hword : ∀ name ∈ ["Order"], ∀ c ∈ name.toList, isWordChar c = true := by
    intro name hname
    rw [List.mem_singleton.mp hname]
    exact horder.word
  have hsearch := (search_selects hstore hfree hnone hword (by decide) (by decide) (by decide)
    (by decide) (by decide) (by decide) hquotes (by decide) 0).2
  have hstate : Query.Condition.Spelled Query.defaultName ⟨["state"], false, .literal .null⟩
      "self.state\n= null".toList :=
    .intro (w := ['\n']) (v := [' ']) (by decide) (by decide)
      (by decide) .null
  have hconditions := Query.conjunction_read (by decide) (.one hstate)
  have hparse : Query.Select.parse (Query.normalize
      ("self FROM " ++ "Order" ++ " self WHERE " ++ " self.state\n= null ")) =
      .ok ⟨"Order", [], [⟨["state"], false, .literal .null⟩]⟩ := by
    rw [Query.filter_text_read (by decide) (by decide)]
    exact congrArg (Except.map _) hconditions
  have hcreate : ofOneOrder.services.queries.create (Query.normalize
      ("self FROM " ++ "Order" ++ " self WHERE " ++ " self.state\n= null ")) = _ :=
    congrArg (· >>= fun q => RecordStore.prepare _ q []) hparse
  refine hsearch.trans ?_
  have hblank : isBlankText
      ("self FROM " ++ "Order" ++ " self WHERE " ++ " self.state\n= null ").toList =
        false := by decide
  have hmodel : ".".intercalate ["Order"] = "Order" := by decide
  rw [hmodel, selectOne, hblank, prepare, hcreate]
  rfl

end Handler

end ActionDispatch
