import ActionDispatch.Proofs.Handler.Searches
import ActionDispatch.Proofs.Script.Names

/-!
# What a search asks for

The script of a search is written with its model and its filter as they are, so that they can be
more than data: a call on `__me__` in them is a call of the handler. Where they have no way to name
`__me__`, or come through the script as a path and as one literal, a search does nothing but prepare
the query that it describes, bind it and ask for its only row.
-/

set_option autoImplicit false

namespace ActionDispatch

section

variable {α : Type} {w a b : List α} {c d : α}

theorem infix_cut (hc : c ∉ w) (h : w <:+: a ++ c :: b) : w <:+: a ∨ w <:+: b := by
  obtain ⟨x, y, h⟩ := h
  obtain ⟨z, rfl, -⟩ | ⟨z, hz, hb⟩ := List.append_eq_append_iff.mp h
  · exact .inl ⟨x, z, rfl⟩
  cases z with
  | nil => exact .inl ⟨x, [], by simpa using hz⟩
  | cons e z =>
    obtain ⟨rfl, rfl⟩ := List.cons.inj hb
    obtain ⟨t, -, rfl⟩ | ⟨t, -, ht⟩ := List.append_eq_append_iff.mp hz
    · simp at hc
    · cases t with
      | nil =>
        obtain rfl : c :: z = w := by simpa using ht
        simp at hc
      | cons f t =>
        obtain ⟨-, rfl⟩ := List.cons.inj ht
        exact .inr ⟨t, y, by simp⟩

theorem lacks_char (hc : c ∈ w) (ha : c ∉ a) : ¬w <:+: a := fun h => ha (h.subset hc)

/-- What is neither in front of a part nor behind it is in the part. -/
theorem infix_within {front back : List α} (hc : c ∉ w) (hd : d ∉ w) (hfront : ¬w <:+: front)
    (hback : ¬w <:+: back) (h : w <:+: front ++ c :: (a ++ d :: back)) : w <:+: a :=
  (infix_cut hd ((infix_cut hc h).resolve_left hfront)).resolve_right hback

end

namespace Script

mutual
theorem subtrees_trans : ∀ (e : Expr) {e' e'' : Expr}, e' ∈ e.subtrees → e'' ∈ e'.subtrees →
    e'' ∈ e.subtrees
  | .literal _, _, _, h, h' => by
    obtain rfl := List.mem_singleton.mp h
    exact h'
  | .name _, _, _, h, h' => by
    obtain rfl := List.mem_singleton.mp h
    exact h'
  | .list items, _, _, h, h' => by
    obtain rfl | h := List.mem_cons.mp h
    · exact h'
    · exact List.mem_cons_of_mem _ (subtreesOf_trans items h h')
  | .property target member safe, _, _, h, h' => by
    obtain rfl | h := List.mem_cons.mp h
    · exact h'
    · exact List.mem_cons_of_mem _ (subtrees_trans target h h')
  | .index target position, _, _, h, h' => by
    obtain rfl | h := List.mem_cons.mp h
    · exact h'
    · exact List.mem_cons_of_mem _ (List.mem_append.mpr ((List.mem_append.mp h).imp
        (subtrees_trans target · h') (subtrees_trans position · h')))
  | .call function args, _, _, h, h' => by
    obtain rfl | h := List.mem_cons.mp h
    · exact h'
    · exact List.mem_cons_of_mem _ (subtreesOf_trans args h h')
  | .invoke target method args safe, _, _, h, h' => by
    obtain rfl | h := List.mem_cons.mp h
    · exact h'
    · exact List.mem_cons_of_mem _ (List.mem_append.mpr ((List.mem_append.mp h).imp
        (subtrees_trans target · h') (subtreesOf_trans args · h')))
  | .not operand, _, _, h, h' => by
    obtain rfl | h := List.mem_cons.mp h
    · exact h'
    · exact List.mem_cons_of_mem _ (subtrees_trans operand h h')
  | .binary op left right, _, _, h, h' => by
    obtain rfl | h := List.mem_cons.mp h
    · exact h'
    · exact List.mem_cons_of_mem _ (List.mem_append.mpr ((List.mem_append.mp h).imp
        (subtrees_trans left · h') (subtrees_trans right · h')))
  | .elvis left right, _, _, h, h' => by
    obtain rfl | h := List.mem_cons.mp h
    · exact h'
    · exact List.mem_cons_of_mem _ (List.mem_append.mpr ((List.mem_append.mp h).imp
        (subtrees_trans left · h') (subtrees_trans right · h')))
termination_by structural e => e

theorem subtreesOf_trans : ∀ (es : List Expr) {e' e'' : Expr}, e' ∈ subtreesOf es →
    e'' ∈ e'.subtrees → e'' ∈ subtreesOf es
  | [], _, _, h, _ => by cases h
  | e :: rest, _, _, h, h' => List.mem_append.mpr ((List.mem_append.mp h).imp
      (subtrees_trans e · h') (subtreesOf_trans rest · h'))
termination_by structural es => es
end

theorem static_name {scope : Table Value} {target : Expr} {path : String}
    (h : target.staticPath? scope = some path) (hpoint : '.' ∉ path.toList) :
    target = .name path ∧ scope.contains path = false := by
  cases target with
  | name head =>
    simp only [Expr.staticPath?] at h
    split at h
    next => cases h
    next hfree =>
      obtain rfl := Option.some.inj h
      exact ⟨rfl, by simpa using hfree⟩
  | property target member safe =>
    cases safe with
    | true => cases h
    | false =>
      obtain ⟨front, -, rfl⟩ := Option.map_eq_some_iff.mp h
      simp at hpoint
  | _ => cases h

end Script

namespace Handler

open Text

def selfMethods : List String := ["selectOne", "selectAll", "search", "evaluate"]

variable {h : Handler} {nested : Nested} {search : Search} {depth : Nat}

theorem invoke_unknown {method : String} (hm : method ∉ selfMethods) (args : List Value) :
    h.invoke nested search depth method args =
      .fail (.script (.unknownMethod selfCallName method)) := by
  unfold invoke
  split <;> first | rfl | exact absurd (by decide) hm

structure Quiet {ε α : Type} (r : Run Event ε α) : Prop where
  events : r.events = []
  ends : r.Ends

def quietly : Run.Relation Event Event ScriptError.Plain where
  rel r _ := Quiet r
  pure a := ⟨rfl, Run.ends_pure a⟩
  fail {_ e} _ := ⟨rfl, Run.ends_fail e⟩
  bind := by
    intro α β r r' f f' hr hf
    refine ⟨?_, hr.ends.bind fun a => (hf a).ends⟩
    cases ho : r.outcome with
    | done a => rw [Run.bind_of_done ho, hr.events, (hf a).events, List.append_nil]
    | failed e => rw [Run.bind_of_failed ho, hr.events]
    | unfinished => exact absurd ho hr.ends

def CallsNothing (h : Handler) (e : Script.Expr) : Prop :=
  ∀ target method args safe, .invoke target method args safe ∈ e.subtrees →
    target.staticPath? h.bindings = some selfCallName → method ∉ selfMethods

theorem host_quiet {e : Script.Expr} (he : h.CallsNothing e) :
    Script.Answers quietly h.bindings (h.host nested search depth) (h.host nested search depth)
      e.subtrees where
  static target method args safe hmem path hpath values := by
    change Quiet _
    simp only [host]
    split
    next hme =>
      subst hme
      rw [invoke_unknown (he target method args safe hmem hpath)]
      exact ⟨rfl, (Run.ends_fail _).mapError _⟩
    next =>
      split
      · exact ⟨rfl, Run.ends_pure _⟩
      · exact ⟨rfl, Run.ends_fail _⟩
  method receiver method values := by
    change Quiet _
    simp only [host]
    split
    · exact ⟨rfl, Run.ends_pure _⟩
    · exact ⟨rfl, Run.ends_fail _⟩

theorem script_quiet {text : String}
    (ht : ∀ e, Script.parse text = .ok e → h.CallsNothing e) :
    Quiet (h.script nested search text depth) := by
  have hquiet : Quiet (Script.evaluate text h.bindings (h.host nested search depth)) :=
    Script.evaluate_carried quietly fun e he => host_quiet (ht e he)
  exact ⟨hquiet.events, hquiet.ends.mapError _⟩

structure OnlyFetches (scope : Table Value) (r : Evaluation Value) : Prop where
  ends : r.Ends
  events : ∃ query, r.events <+: [.described query, .bound scope query.params, .askedOne]

theorem askOne_asked (engine : QueryEngine) (handle : engine.Handle) :
    (askOne engine handle).Ends ∧ (askOne engine handle).events = [.askedOne] := by
  rw [askOne, Run.report_bind]
  simp only [Run.Ends]
  split <;> simp [pure, Run.done, Run.fail]

theorem fetch_only (h : Handler) (query : Query) (scope : Table Value) :
    OnlyFetches scope (h.fetch query scope) := by
  cases hd : h.services.queries.describe query with
  | error e =>
    have hfetch : h.fetch query scope = ⟨[.described query], .failed (.query e)⟩ := by
      rw [fetch, hd]
      rfl
    rw [hfetch]
    exact ⟨by simp [Run.Ends], query, List.prefix_append [_] _⟩
  | ok handle =>
    generalize hbound : h.services.queries.bind handle scope query.params = bound
    have hfetch : h.fetch query scope =
        ⟨.described query :: .bound scope query.params :: (askOne _ bound).events,
          (askOne _ bound).outcome⟩ := by
      rw [fetch, hd, ← hbound]
      rfl
    obtain ⟨hends, hasked⟩ := askOne_asked h.services.queries bound
    rw [hfetch, hasked]
    exact ⟨hends, query, List.prefix_rfl⟩

theorem fetchDescribed_only (h : Handler) (text : String) (params : Table Value) (value : Value) :
    OnlyFetches (Table.insertAll h.bindings params) (h.fetchDescribed text params value) := by
  unfold fetchDescribed
  split
  · exact h.fetch_only _ _
  · exact ⟨Run.ends_fail _, ⟨"", none, []⟩, List.nil_prefix⟩

theorem Quiet.onlyFetches {scope : Table Value} {r : Evaluation Value}
    {f : Value → Evaluation Value}
    (hr : Quiet r) (hf : ∀ value, OnlyFetches scope (f value)) : OnlyFetches scope (r >>= f) := by
  refine ⟨hr.ends.bind fun value => (hf value).ends, ?_⟩
  cases ho : r.outcome with
  | done value =>
    rw [Run.bind_of_done ho, hr.events]
    exact (hf value).events
  | failed e =>
    rw [Run.bind_of_failed ho, hr.events]
    exact ⟨⟨"", none, []⟩, List.nil_prefix⟩
  | unfinished => exact absurd ho hr.ends

/-- A model and a filter that a search takes as data: `__me__` is bound to a value, or neither of
them names it, or the model is a path of names and the filter comes through the script as one
literal, or at least the script that they are written into has no call of the handler. -/
inductive PassesAsData (h : Handler) : (model filter : String) → Prop
  | bound {model filter : String} (hme : h.bindings.contains selfCallName = true) :
      PassesAsData h model filter
  | unnamed {model filter : String} (hm : ¬selfCallName.toList <:+: model.toList)
      (hf : ¬selfCallName.toList <:+: filter.toList) : PassesAsData h model filter
  | path {first filter : String} {members : List String} (hfirst : Script.isFreeName first = true)
      (hmembers : ∀ member ∈ members, Script.isName member.toList = true) (hw : Script.Wraps filter)
      (hq : Quotable (strip filter).toList) :
      PassesAsData h (".".intercalate (first :: members)) filter
  | uncalled {model filter : String}
      (he : ∀ e, Script.parse (searchScript model filter) = .ok e → h.CallsNothing e) :
      PassesAsData h model filter

/-- A name without marks in it stands in the script of a search only where it stands in the model or
in the filter. -/
theorem searchScript_names {model filter : String}
    (h : selfCallName.toList <:+: (searchScript model filter).toList) :
    selfCallName.toList <:+: model.toList ∨ selfCallName.toList <:+: filter.toList := by
  have hlow : '_' ∈ selfCallName.toList := by decide
  have htext : (searchScript model filter).toList =
      model.toList ++ '.' ::
        ("all()".toList ++ '.' :: (Expression.asCall "filter" filter).toList) := by
    have hall : ".all().".toList = '.' :: ("all()".toList ++ ['.']) := by decide
    simp [searchScript, hall]
  rw [htext] at h
  obtain h | h := infix_cut (by decide) h
  · exact .inl h
  obtain h | h := infix_cut (by decide) h
  · exact absurd h (lacks_char hlow (by decide))
  refine .inr (List.IsInfix.trans ?_ (strip_within filter))
  simp only [Expression.asCall] at h
  split at h
  next hopen =>
    obtain ⟨rest, hrest⟩ := List.head?_eq_some_iff.mp hopen
    rw [String.toList_append, hrest] at h
    obtain h | h := infix_cut (by decide) h
    · exact absurd h (lacks_char hlow (by decide))
    · exact h.trans (hrest ▸ List.suffix_cons '(' rest).isInfix
  split at h
  next =>
    have hmarks : "(".toList = ['('] ∧ ")".toList = [')'] := by decide
    simp only [String.toList_append, hmarks, List.append_assoc, List.cons_append,
      List.nil_append] at h
    exact infix_within (by decide) (by decide) (lacks_char hlow (by decide))
      (lacks_char hlow (by decide)) h
  next =>
    have hmarks : "(\"\"\"".toList = ['(', '"', '"', '"'] ∧
        "\"\"\")".toList = ['"', '"', '"', ')'] := by
      decide
    have hcall : ("filter" ++ "(\"\"\"" ++ strip filter ++ "\"\"\")").toList =
        ("filter".toList ++ ['(', '"', '"']) ++ '"' ::
          ((strip filter).toList ++ '"' :: ['"', '"', ')']) := by
      simp only [String.toList_append, hmarks, List.append_assoc, List.cons_append, List.nil_append]
    rw [hcall] at h
    exact infix_within (by decide) (by decide) (lacks_char hlow (by decide))
      (lacks_char hlow (by decide)) h

theorem path_no_call {first : String} {members : List String} {target : Script.Expr}
    {method : String}
    {args : List Script.Expr} {safe : Bool} :
    .invoke target method args safe ∉ (Script.pathOf first members).subtrees := by
  induction members using List.reverseRecOn with
  | nil => simp [Script.pathOf, Script.Expr.subtrees]
  | append_singleton members member ih => simp [Script.path_concat, Script.Expr.subtrees, ih]

theorem filterOf_calls_nothing (h : Handler) (first : String) (members : List String)
    (body : String) :
    h.CallsNothing (Script.filterOf first members body) := by
  intro target method args safe hmem hpath
  simp only [Script.filterOf, Script.allOf, Script.Expr.subtrees, Script.subtreesOf, List.mem_cons,
    List.mem_append, Script.Expr.invoke.injEq, path_no_call, List.not_mem_nil, or_false,
    reduceCtorEq] at hmem
  obtain ⟨rfl, -⟩ | ⟨-, rfl, -⟩ := hmem
  · cases hpath
  · decide

theorem data_calls_nothing {model filter : String} (hdata : h.PassesAsData model filter)
    {e : Script.Expr} (he : Script.parse (searchScript model filter) = .ok e) :
    h.CallsNothing e := by
  have hname : ∀ {target method args safe}, .invoke target method args safe ∈ e.subtrees →
      target.staticPath? h.bindings = some selfCallName →
      .name selfCallName ∈ e.subtrees ∧ h.bindings.contains selfCallName = false := by
    intro target method args safe hmem hpath
    obtain ⟨rfl, hfree⟩ := Script.static_name hpath (by decide)
    refine ⟨Script.subtrees_trans e hmem ?_, hfree⟩
    simp [Script.Expr.subtrees]
  cases hdata with
  | bound hme =>
    intro target method args safe hmem hpath
    rw [(hname hmem hpath).2] at hme
    cases hme
  | unnamed hm hf =>
    intro target method args safe hmem hpath
    obtain hin | hin := searchScript_names (Script.parse_names he (hname hmem hpath).1)
    · exact absurd hin hm
    · exact absurd hin hf
  | @path first filter members hfirst hmembers hw hq =>
    have htree : e = Script.filterOf first members filter := by
      by_cases hlen : members.length + 3 ≤ Script.maxNesting
      · rw [Script.search_parses hfirst hmembers hlen hw hq] at he
        exact (Except.ok.inj he).symm
      · have hisname : Script.isName first.toList = true := by simp_all [Script.isFreeName]
        have hnest := Script.search_nesting hisname hmembers hq
        rw [← Script.search_text hw] at hnest
        simp only [Script.parse, hnest, if_pos (Nat.lt_of_not_le hlen)] at he
        cases he
    exact htree ▸ h.filterOf_calls_nothing first members filter
  | uncalled hcalls => exact hcalls e he

/-- Where its model and its filter pass as data, a search ends, on its own and from a script at any
depth, and asks for nothing but the only row of one described query. -/
theorem search_only_fetches {h : Handler} {model filter : String}
    (hdata : h.PassesAsData model filter)
    (fuel : Nat) (nested : Nested) (depth : Nat) :
    (∀ params, OnlyFetches (Table.insertAll h.bindings params)
      (h.search (fuel + 1) model filter params)) ∧
    (∀ params, OnlyFetches (Table.insertAll h.bindings params)
      (h.invoke nested (h.searchAt (fuel + 1)) depth "search"
        [.string model, .string filter, .map params])) ∧
    OnlyFetches (Table.insertAll h.bindings Table.empty)
      (h.invoke nested (h.searchAt (fuel + 1)) depth "search" [.string model, .string filter]) := by
  have hsearch : ∀ params depth, OnlyFetches (Table.insertAll h.bindings params)
      (h.searchAt (fuel + 1) model filter params depth) := by
    intro params depth
    rw [searchAt]
    exact (script_quiet fun _ => data_calls_nothing hdata).onlyFetches
      (h.fetchDescribed_only _ params)
  exact ⟨(hsearch · 0), (hsearch · depth), hsearch Table.empty depth⟩

theorem search_only_fetches_note :
    OnlyFetches (Table.insertAll ofOneOrder.bindings Table.empty)
      (ofOneOrder.search 1 (".".intercalate ["Order"]) " self.note != '__me__.evaluate()' "
        Table.empty) := by
  have hquotable : Quotable (strip " self.note != '__me__.evaluate()' ").toList :=
    ⟨lacks_char (c := '"') (by decide) (by decide), by decide⟩
  have hdata :
      ofOneOrder.PassesAsData (".".intercalate ["Order"]) " self.note != '__me__.evaluate()' " :=
    .path (by decide) (by simp) ⟨by decide, by decide⟩ hquotable
  exact (search_only_fetches hdata 0 (ofOneOrder.evaluateAt 0) 0).1 Table.empty

def mailing : Handler :=
  .ofRequest
    (Application.empty.services [("mail", .handling "mail" fun _ _ response => (response, none))])
    ⟨none, none, none⟩

def sendsMail : Event → Bool
  | .handled "mail" "send" => true
  | _ => false

/-- A model has the controller handle the request, and so does a filter that begins and ends with a
quote. -/
theorem search_sends_mail :
    (mailing.search 2 "__me__.evaluate('call: mail:send') == 1 ?: Order" "" Table.empty).events.any
        sendsMail = true ∧
      (mailing.search 2 "Order" "'a' + __me__.evaluate('call: mail:send') + 'b'"
        Table.empty).events.any sendsMail = true := by
  decide +kernel

end Handler

end ActionDispatch
