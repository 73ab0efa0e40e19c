import ActionDispatch.Proofs.Script.Evaluation

/-!
# Calls that fail

A script has no way to go on behind a call that fails. To state it, the calls of a script are noted
with their answers: a noted host answers as the host does and reports each answer behind what the
host has reported on the way to it.
-/

set_option autoImplicit false

namespace ActionDispatch.Script

variable {Event α β : Type}

inductive Call where
  | onPath (target method : String) (args : List Value)
  | onValue (receiver : Value) (method : String) (args : List Value)
  | onObject (method : String) (args : List Value)

def Call.ToHost : Call → Prop
  | .onPath .. | .onValue .. => True
  | .onObject .. => False

inductive Note (Event : Type) where
  | reported (event : Event)
  | answered (call : Call) (answer : Outcome ScriptError Value)

namespace Note

def event? : Note Event → Option Event
  | .reported event => some event
  | .answered .. => none

def isFailure : Note Event → Bool
  | .answered _ (.failed _) => true
  | _ => false

def OfHost : Note Event → Prop
  | .reported _ => True
  | .answered call _ => call.ToHost

theorem isFailure_iff {note : Note Event} :
    note.isFailure = true ↔ ∃ call error, note = .answered call (.failed error) := by
  cases note with
  | reported event => simp [isFailure]
  | answered call answer => cases answer <;> simp [isFailure]

end Note

def noted (call : Call) (r : Run Event ScriptError Value) : Run (Note Event) ScriptError Value :=
  ⟨r.events.map .reported ++ [.answered call r.outcome], r.outcome⟩

def Host.noted (host : Host Event) : Host (Note Event) where
  invokeStatic target method args :=
    Script.noted (.onPath target method args) (host.invokeStatic target method args)
  invokeMethod receiver method args :=
    Script.noted (.onValue receiver method args) (host.invokeMethod receiver method args)

def notedObject (object : (method : String) → List Value → Run Event ScriptError Value)
    (method : String) (args : List Value) : Run (Note Event) ScriptError Value :=
  noted (.onObject method args) (object method args)

def unnoted (r : Run (Note Event) ScriptError α) : Run Event ScriptError α :=
  ⟨r.events.filterMap Note.event?, r.outcome⟩

theorem unnoted_noted (call : Call) (r : Run Event ScriptError Value) :
    unnoted (noted call r) = r := by
  have hevents : (r.events.map Note.reported).filterMap Note.event? = r.events := by
    rw [List.filterMap_map]
    exact List.filterMap_some
  simp only [unnoted, noted, List.filterMap_append, hevents, Note.event?, List.filterMap_cons,
    List.filterMap_nil, List.append_nil]

theorem unnoted_bind (r : Run (Note Event) ScriptError α)
    (f : α → Run (Note Event) ScriptError β) :
    unnoted (r >>= f) = unnoted r >>= fun a => unnoted (f a) := by
  cases h : r.outcome with
  | done a =>
    rw [Run.bind_of_done h, Run.bind_of_done (r := unnoted r) h]
    simp [unnoted, List.filterMap_append]
  | failed e =>
    rw [Run.bind_of_failed h, Run.bind_of_failed (r := unnoted r) h]
    rfl
  | unfinished =>
    rw [Run.bind_of_unfinished h, Run.bind_of_unfinished (r := unnoted r) h]
    rfl

def FailingLast (r : Run (Note Event) ScriptError α) : Prop :=
  ∀ before call error after, r.events = before ++ .answered call (.failed error) :: after →
    after = [] ∧ r.outcome = .failed error

theorem failingLast_quiet {r : Run (Note Event) ScriptError α} (h : r.events = []) :
    FailingLast r := by
  intro before call error after hr
  simp [h] at hr

theorem failingLast_noted (call : Call) (r : Run Event ScriptError Value) :
    FailingLast (noted call r) := by
  intro before call' error after h
  obtain ⟨middle, rfl, hlast⟩ | ⟨middle, hr, hlast⟩ := List.append_eq_append_iff.mp h
  · cases middle with
    | nil =>
      simp only [List.nil_append, List.cons.injEq, Note.answered.injEq] at hlast
      exact ⟨hlast.2.symm, hlast.1.2⟩
    | cons note middle => simp at hlast
  · cases middle with
    | nil =>
      simp only [List.nil_append, List.cons.injEq, Note.answered.injEq] at hlast
      exact ⟨hlast.2, hlast.1.2.symm⟩
    | cons note middle =>
      obtain ⟨rfl, -⟩ := List.cons.inj hlast
      have hmem : Note.answered call' (.failed error) ∈ r.events.map Note.reported := by simp [hr]
      simp at hmem

theorem FailingLast.bind {r : Run (Note Event) ScriptError α}
    {f : α → Run (Note Event) ScriptError β} (hr : FailingLast r) (hf : ∀ a, FailingLast (f a)) :
    FailingLast (r >>= f) := by
  intro before call error after h
  cases ho : r.outcome with
  | done a =>
    rw [Run.bind_of_done ho] at h ⊢
    obtain ⟨middle, rfl, hrest⟩ | ⟨middle, hr', hrest⟩ := List.append_eq_append_iff.mp h
    · exact hf a _ _ _ _ hrest
    · cases middle with
      | nil => exact hf a [] _ _ _ (by simpa using hrest.symm)
      | cons note middle =>
        -- A failing call among the notes of `r` contradicts that `r` ends with a value.
        obtain ⟨rfl, rfl⟩ := List.cons.inj hrest
        obtain ⟨-, hfailed⟩ := hr _ _ _ _ hr'
        rw [ho] at hfailed
        cases hfailed
  | failed e =>
    rw [Run.bind_of_failed ho] at h ⊢
    obtain ⟨rfl, hend⟩ := hr _ _ _ _ h
    rw [ho] at hend
    cases hend
    exact ⟨rfl, rfl⟩
  | unfinished =>
    rw [Run.bind_of_unfinished ho] at h ⊢
    obtain ⟨-, hend⟩ := hr _ _ _ _ h
    rw [ho] at hend
    cases hend

/-- At most one call of such a run fails. -/
theorem FailingLast.failures_le_one {r : Run (Note Event) ScriptError α} (h : FailingLast r) :
    r.events.countP Note.isFailure ≤ 1 := by
  by_cases hany : ∃ note ∈ r.events, note.isFailure = true
  · obtain ⟨before, note, after, hr, hnote, hbefore⟩ :
        ∃ before note after, r.events = before ++ note :: after ∧ note.isFailure = true ∧
          ∀ earlier ∈ before, earlier.isFailure = false := by
      obtain ⟨note, hmem, hnote⟩ := hany
      obtain ⟨first, hfirst⟩ := Option.isSome_iff_exists.mp
        (List.find?_isSome.mpr ⟨note, hmem, hnote⟩)
      obtain ⟨hp, before, after, hr, hbefore⟩ := List.find?_eq_some_iff_append.mp hfirst
      exact ⟨before, first, after, hr, hp, fun earlier he => by simpa using hbefore earlier he⟩
    obtain ⟨call, error, rfl⟩ := Note.isFailure_iff.mp hnote
    obtain ⟨rfl, -⟩ := h _ _ _ _ hr
    have hzero : before.countP Note.isFailure = 0 := by
      rw [List.countP_eq_zero]
      intro earlier he
      simp [hbefore earlier he]
    simp [hr, List.countP_append, hzero, Note.isFailure]
  · have hzero : r.events.countP Note.isFailure = 0 := by
      rw [List.countP_eq_zero]
      intro note hn hnote
      exact hany ⟨note, hn, hnote⟩
    omega

/-- What noting the calls of a run yields: the run itself, ended by the only call that may fail. -/
structure Noting (r : Run (Note Event) ScriptError α) (r' : Run Event ScriptError α) : Prop where
  last : FailingLast r
  once : r.events.countP Note.isFailure ≤ 1
  same : unnoted r = r'

def notes (Event : Type) : Run.Relation (Note Event) Event ScriptError.Plain where
  rel r r' := FailingLast r ∧ unnoted r = r'
  pure _ := ⟨failingLast_quiet rfl, rfl⟩
  fail _ := ⟨failingLast_quiet rfl, rfl⟩
  bind := by
    intro α β r r' f f' hr hf
    refine ⟨hr.1.bind fun a => (hf a).1, ?_⟩
    rw [unnoted_bind, hr.2]
    congr
    funext a
    exact (hf a).2

theorem Noting.of_notes {r : Run (Note Event) ScriptError α} {r' : Run Event ScriptError α}
    (h : (notes Event).rel r r') : Noting r r' :=
  ⟨h.1, h.1.failures_le_one, h.2⟩

theorem notes_noted (call : Call) (r : Run Event ScriptError Value) :
    (notes Event).rel (noted call r) r :=
  ⟨failingLast_noted call r, unnoted_noted call r⟩

theorem answers_noted (scope : Table Value) (host : Host Event) (trees : List Expr) :
    Answers (notes Event) scope host.noted host trees where
  static _ _ _ _ _ _ _ _ := notes_noted _ _
  method _ _ _ := notes_noted _ _

theorem callOn_call {text method : String} {args : List Expr}
    (h : parse text = .ok (.call method args))
    (object : (method : String) → List Value → Run Event ScriptError Value) (scope : Table Value)
    (host : Host Event) :
    callOn object text scope host = evalAll scope host args >>= object method := by
  rw [callOn, h]
  rfl

theorem callOn_other {text : String} (h : ∀ method args, parse text ≠ .ok (.call method args)) :
    ∃ e : ScriptError, e.Plain ∧
      ∀ {Event : Type} (object : (method : String) → List Value → Run Event ScriptError Value)
        (scope : Table Value) (host : Host Event), callOn object text scope host = .fail e := by
  cases hp : parse text with
  | error e =>
    refine ⟨e, parse_plain hp, fun object scope host => ?_⟩
    rw [callOn, hp]
    rfl
  | ok tree =>
    refine ⟨.parse ("not a method call: " ++ text), trivial, fun object scope host => ?_⟩
    rw [callOn, hp]
    cases tree with
    | call method args => exact absurd hp (h method args)
    | _ => rfl

theorem noted_ofHost {call : Call} (h : call.ToHost) (r : Run Event ScriptError Value) :
    Run.Within Note.OfHost (fun _ => True) (noted call r) where
  event := by
    intro note hn
    obtain hn | hn := List.mem_append.mp hn
    · obtain ⟨event, -, rfl⟩ := List.mem_map.mp hn
      trivial
    · rw [List.mem_singleton.mp hn]
      exact h
  failure _ _ := trivial

/-- The notes of a list of arguments are of calls that the host answers. -/
theorem evalAll_ofHost (scope : Table Value) (host : Host Event) (args : List Expr) :
    Run.Within Note.OfHost (fun _ => True) (evalAll scope host.noted args) := by
  have hpath : ∀ path method values, (Call.onPath path method values).ToHost := fun _ _ _ => trivial
  have hvalue : ∀ receiver method values, (Call.onValue receiver method values).ToHost :=
    fun _ _ _ => trivial
  have hanswers : Answers (Run.Relation.within Note.OfHost) scope host.noted host.noted
      (subtreesOf args) :=
    ⟨fun _ method _ _ _ path _ values => noted_ofHost (hpath path method values) _,
      fun receiver method values => noted_ofHost (hvalue receiver method values) _⟩
  exact evalAll_carried _ args hanswers

/-- The notes of a call of an object come from its arguments if one of their calls has failed. -/
theorem bind_notedObject_ofHost {r : Run (Note Event) ScriptError (List Value)}
    (hr : Run.Within Note.OfHost (fun _ => True) r) (hlast : FailingLast r) (method : String)
    (object : (method : String) → List Value → Run Event ScriptError Value)
    {call : Call} {error : ScriptError} (hcall : call.ToHost)
    (hmem : .answered call (.failed error) ∈ (r >>= notedObject object method).events) :
    ∀ note ∈ (r >>= notedObject object method).events, note.OfHost := by
  cases ho : r.outcome with
  | done values =>
    rw [Run.bind_of_done ho] at hmem
    obtain hmem | hmem := List.mem_append.mp hmem
    · obtain ⟨before, after, h⟩ := List.append_of_mem hmem
      obtain ⟨-, hfailed⟩ := hlast _ _ _ _ h
      rw [ho] at hfailed
      cases hfailed
    · obtain hmem | hmem := List.mem_append.mp hmem
      · simp at hmem
      · obtain ⟨rfl, -⟩ := Note.answered.inj (List.mem_singleton.mp hmem)
        exact hcall.elim
  | failed e =>
    rw [Run.bind_of_failed ho]
    exact hr.event
  | unfinished =>
    rw [Run.bind_of_unfinished ho]
    exact hr.event

section

variable (scope : Table Value) (host : Host Event)
  (object : (method : String) → List Value → Run Event ScriptError Value)

theorem callOn_notes (text : String) :
    (notes Event).rel (callOn (notedObject object) text scope host.noted)
      (callOn object text scope host) := by
  by_cases hp : ∃ method args, parse text = .ok (.call method args)
  · obtain ⟨method, args, hp⟩ := hp
    rw [callOn_call hp, callOn_call hp]
    exact (notes Event).bind (evalAll_carried (notes Event) args (answers_noted scope host _))
      fun values => notes_noted _ _
  · obtain ⟨e, he, hfail⟩ := callOn_other (not_exists.mp <| not_exists.mp hp ·)
    rw [hfail, hfail]
    exact (notes Event).fail he

theorem callOn_ofHost {text : String} {call : Call} {error : ScriptError} (hcall : call.ToHost)
    (hmem : .answered call (.failed error) ∈
      (callOn (notedObject object) text scope host.noted).events) :
    ∀ note ∈ (callOn (notedObject object) text scope host.noted).events, note.OfHost := by
  by_cases hp : ∃ method args, parse text = .ok (.call method args)
  · obtain ⟨method, args, hp⟩ := hp
    rw [callOn_call hp] at hmem ⊢
    have hargs := evalAll_carried (notes Event) args (answers_noted scope host _)
    exact bind_notedObject_ofHost (evalAll_ofHost scope host args) hargs.1 method object hcall hmem
  · obtain ⟨e, -, hfail⟩ := callOn_other (not_exists.mp <| not_exists.mp hp ·)
    rw [hfail] at hmem
    cases hmem

end

/-- A failing call ends a script: it is the last thing the script reports, its failure is the
outcome, and so at most one call fails, wherever in the tree it is made. Noting the calls changes
nothing else. -/
theorem script_ends_at_failing_call (scope : Table Value) (host : Host Event) :
    (∀ e : Expr, Noting (e.eval scope host.noted) (e.eval scope host)) ∧
    (∀ text, Noting (evaluate text scope host.noted) (evaluate text scope host)) ∧
    ∀ object text,
      Noting (callOn (notedObject object) text scope host.noted) (callOn object text scope host) ∧
      ∀ call error, call.ToHost →
        .answered call (.failed error) ∈
            (callOn (notedObject object) text scope host.noted).events →
          ∀ note ∈ (callOn (notedObject object) text scope host.noted).events, note.OfHost :=
  ⟨fun e => .of_notes (eval_carried (notes Event) e (answers_noted scope host _)),
    fun _ => .of_notes (evaluate_carried (notes Event) fun _ _ => answers_noted scope host _),
    fun object text => ⟨.of_notes (callOn_notes scope host object text),
      fun _ _ hcall hmem => callOn_ofHost scope host object hcall hmem⟩⟩

theorem elvis_ends_at_failing_call :
    let host : Host Unit :=
      { invokeStatic := fun _ method _ =>
          if method = "first" then .fail (.host "offline") else return .bool false
        invokeMethod := fun _ method _ => .fail (.unknownMethod "value" method) }
    let invoke method := Expr.invoke (.name "Order") method [] false
    let script := Expr.binary .or (invoke "count") (.elvis (invoke "first") (invoke "last"))
    let answered method answer : Note Unit := .answered (.onPath "Order" method []) answer
    (script.eval Table.empty host.noted).events =
        [answered "count" (.done (.bool false)), answered "first" (.failed (.host "offline"))] ∧
      (script.eval Table.empty host.noted).outcome = .failed (.host "offline") := by
  intro host invoke script answered
  have hevents : (script.eval Table.empty host.noted).events =
      [answered "count" (.done (.bool false)), answered "first" (.failed (.host "offline"))] := rfl
  refine ⟨hevents, ?_⟩
  exact (((script_ends_at_failing_call Table.empty host).1 script).last [_] _ _ [] hevents).2

end ActionDispatch.Script
