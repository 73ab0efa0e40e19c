import ActionDispatch.Proofs.Handler.Refusal
import ActionDispatch.Proofs.Handler.Script

/-!
# The depth of nested evaluations

References to actions are followed up to the limit and no further. A script that evaluates an
expression does so one level deeper whatever the limit is, so that an evaluation beyond the limit
always has a script on each level from the limit on above it. Where no script runs at the limit,
every evaluation stays within it.
-/

set_option autoImplicit false

namespace ActionDispatch

def Expression.isScript (e : Expression) : Bool :=
  e.script?.isSome

def Event.isScriptAt (depth : Nat) : Event → Bool
  | .dispatched e depth' => depth' = depth && e.isScript
  | _ => false

def Event.isBeyond (limit : Nat) : Event → Bool
  | .dispatched _ depth => limit < depth
  | _ => false

/-- References are followed within the limit, and behind the limit each level is reached from a
script on the level before it, the level `entry` excepted. -/
structure Climbs (limit entry : Nat) (events : List Event) : Prop where
  followed : ∀ name depth, .followed name depth ∈ events → depth ≤ limit
  dispatched : ∀ before e depth after, events = before ++ .dispatched e (depth + 1) :: after →
    limit ≤ depth → depth + 1 = entry ∨
      ∃ script : Expression, script.isScript = true ∧ .dispatched script depth ∈ before

section

variable {limit entry : Nat} {events events' : List Event}

theorem climbs_calls (h : ∀ e ∈ events, e.IsCall) : Climbs limit entry events where
  followed name depth hm := (h _ hm).elim
  dispatched before e depth after hs _ := by
    have hm : .dispatched e (depth + 1) ∈ events := by
      rw [hs]
      simp
    exact (h _ hm).elim

theorem climbs_append (h : Climbs limit entry events) (h' : Climbs limit entry events') :
    Climbs limit entry (events ++ events') where
  followed name depth hm :=
    (List.mem_append.mp hm).elim (h.followed name depth) (h'.followed name depth)
  dispatched before e depth after hs hd := by
    rcases List.append_eq_append_iff.mp hs with ⟨more, rfl, hrest⟩ | ⟨more, hb, hrest⟩
    · rcases h'.dispatched more e depth after hrest hd with he | ⟨script, hk, hm⟩
      · exact .inl he
      · exact .inr ⟨script, hk, List.mem_append_right _ hm⟩
    · cases more with
      | nil =>
        rw [List.nil_append] at hrest
        rcases h'.dispatched [] e depth after hrest.symm hd with he | ⟨script, hk, hm⟩
        · exact .inl he
        · cases hm
      | cons first more =>
        obtain ⟨rfl, -⟩ := List.cons.inj hrest
        exact h.dispatched before e depth more hb hd

theorem climbs_entry (h : Climbs limit entry events) (he : entry ≤ limit) (entry' : Nat) :
    Climbs limit entry' events where
  followed := h.followed
  dispatched before e depth after hs hd := by
    rcases h.dispatched before e depth after hs hd with rfl | hscript
    · omega
    · exact .inr hscript

theorem climbs_dispatched (e : Expression) (depth : Nat) :
    Climbs limit depth [.dispatched e depth] where
  followed name depth' hm := by simp at hm
  dispatched before e' depth' after hs _ := by
    cases before with
    | nil =>
      simp only [List.nil_append, List.cons.injEq, Event.dispatched.injEq] at hs
      exact .inl hs.1.2.symm
    | cons first before => simp at hs

theorem climbs_followed (name : String) {depth : Nat} (hd : depth ≤ limit) :
    Climbs limit entry [.followed name depth] where
  followed name' depth' hm := by
    obtain ⟨rfl, rfl⟩ : name' = name ∧ depth' = depth := by simpa using hm
    exact hd
  dispatched before e depth' after hs _ := by
    cases before <;> simp at hs

theorem climbs_refused (name : String) (depth : Nat) :
    Climbs limit entry [.refused name depth] where
  followed name' depth' hm := by simp at hm
  dispatched before e depth' after hs _ := by
    cases before <;> simp at hs

theorem climbs_script {e : Expression} {depth : Nat} (he : e.isScript = true)
    (h : Climbs limit (depth + 1) events) : Climbs limit depth (.dispatched e depth :: events) where
  followed name depth' hm := by
    rcases List.mem_cons.mp hm with hm | hm
    · cases hm
    · exact h.followed name depth' hm
  dispatched before e' depth' after hs hd := by
    cases before with
    | nil =>
      simp only [List.nil_append, List.cons.injEq, Event.dispatched.injEq] at hs
      exact .inl hs.1.2.symm
    | cons first before =>
      obtain ⟨rfl, hrest⟩ := List.cons.inj hs
      rcases h.dispatched before e' depth' after hrest hd with hentry | ⟨script, hk, hm⟩
      · obtain rfl : depth' = depth := by omega
        exact .inr ⟨e, he, by simp⟩
      · exact .inr ⟨script, hk, List.mem_cons_of_mem _ hm⟩

/-- A sequence that begins at depth zero and runs no script at the limit stays within the limit. -/
theorem climbs_within (h : Climbs limit 0 events)
    (hs : events.any (Event.isScriptAt limit) = false) :
    events.any (Event.isBeyond limit) = false := by
  -- from an evaluation beyond the limit, the scripts above it lead back to one at the limit itself
  have hnone : ∀ k e, .dispatched e (limit + 1 + k) ∉ events := by
    intro k
    induction k with
    | zero =>
      intro e hm
      obtain ⟨before, after, hsplit⟩ := List.append_of_mem hm
      rcases h.dispatched before e limit after hsplit (Nat.le_refl _) with hz | ⟨script, hk, hb⟩
      · omega
      · have hm : .dispatched script limit ∈ events := hsplit ▸ List.mem_append_left _ hb
        have hno := List.any_eq_false.mp hs _ hm
        simp [Event.isScriptAt, hk] at hno
    | succ k ih =>
      intro e hm
      obtain ⟨before, after, hsplit⟩ := List.append_of_mem hm
      rcases h.dispatched before e (limit + 1 + k) after hsplit (by omega) with hz | ⟨script, -, hb⟩
      · omega
      · exact ih script (hsplit ▸ List.mem_append_left _ hb)
  refine List.any_eq_false.mpr fun event hm hb => ?_
  cases event with
  | dispatched e depth =>
    have hd : limit < depth := by simpa [Event.isBeyond] using hb
    obtain ⟨k, rfl⟩ : ∃ k, depth = limit + 1 + k := ⟨depth - (limit + 1), by omega⟩
    exact hnone k e hm
  | _ => cases hb

end

namespace Handler

variable {ε α β : Type} {limit entry : Nat}

theorem climbs_bind {r : Run Event ε α} {f : α → Run Event ε β} (hr : Climbs limit entry r.events)
    (hf : ∀ a, Climbs limit entry (f a).events) : Climbs limit entry (r >>= f).events := by
  cases ho : r.outcome with
  | done a =>
    rw [Run.bind_of_done ho]
    exact climbs_append hr (hf a)
  | failed e =>
    rw [Run.bind_of_failed ho]
    exact hr
  | unfinished =>
    rw [Run.bind_of_unfinished ho]
    exact hr

def climbing (limit entry : Nat) (Q : ε → Prop) : Run.Congruence Event.IsCall Q where
  rel r _ := Climbs limit entry r.events
  within h := climbs_calls h.event
  bind := climbs_bind

def climbingCrossing (limit entry : Nat) : Crossing Event.IsCall where
  evals := climbing limit entry EvalError.Plain
  scripts := climbing limit entry ScriptError.Plain
  toScript h := h
  ofScript h := h
  call _ he := he

structure ClimbsWith (h : Handler) (fuel : Nat) : Prop where
  evaluate : ∀ text depth,
    Climbs h.services.settings.maxActionDepth depth (h.evaluateAt fuel text depth).events
  action : ∀ name depth,
    Climbs h.services.settings.maxActionDepth 0 (h.actionAt fuel name depth).events
  search : ∀ model filter params depth,
    Climbs h.services.settings.maxActionDepth (depth + 1)
      (h.searchAt fuel model filter params depth).events

section

variable {h : Handler} {fuel : Nat}

theorem script_climbs (hc : h.ClimbsWith fuel) (text : String) (depth : Nat) :
    Climbs h.services.settings.maxActionDepth (depth + 1)
      (h.script (h.evaluateAt fuel) (h.searchAt fuel) text depth).events := by
  let C := climbingCrossing h.services.settings.maxActionDepth (depth + 1)
  have hn : ∀ text, C.evals.rel (h.evaluateAt fuel text (depth + 1))
      (h.evaluateAt fuel text (depth + 1)) := fun text => hc.evaluate text (depth + 1)
  have hs : ∀ model filter params, C.evals.rel (h.searchAt fuel model filter params depth)
      (h.searchAt fuel model filter params depth) :=
    fun model filter params => hc.search model filter params depth
  exact script_related C hn hs h text

theorem evaluate_climbs (hc : h.ClimbsWith fuel) (text : String) (depth : Nat) :
    Climbs h.services.settings.maxActionDepth depth
      (h.evaluateAt (fuel + 1) text depth).events := by
  have hnone : Climbs h.services.settings.maxActionDepth depth [] := climbs_calls (by simp)
  have hfirst : Climbs h.services.settings.maxActionDepth depth
      [.dispatched (Expression.parse text) depth] := climbs_dispatched _ depth
  cases hs : (Expression.parse text).script? with
  | some body =>
    rw [evaluateAt_script fuel depth hs, Run.report_bind]
    refine climbs_script (by simp [Expression.isScript, hs]) ?_
    exact climbs_bind (script_climbs hc body depth) fun value => climbs_calls nofun
  | none =>
    simp only [evaluateAt]
    split
    · exact hnone
    · simp only [Expression.script?] at hs
      cases hk : (Expression.parse text).kind with
      | eval | selectOne | selectAll => simp [hk] at hs
      | literal => exact climbs_bind hfirst fun _ => hnone
      | action =>
        exact climbs_bind hfirst fun _ =>
          climbs_entry (hc.action _ (depth + 1)) (Nat.zero_le _) depth
      | call =>
        refine climbs_bind hfirst fun _ => ?_
        simp only
        split
        · exact hnone
        · exact climbs_bind (climbs_calls (h.call_asks _ _).event) fun _ => hnone

theorem action_climbs (hc : h.ClimbsWith fuel) (name : String) (depth : Nat) :
    Climbs h.services.settings.maxActionDepth 0 (h.actionAt (fuel + 1) name depth).events := by
  by_cases hd : h.services.settings.maxActionDepth < depth
  · rw [actionAt_refused fuel name hd]
    exact climbs_refused _ depth
  have hle : depth ≤ h.services.settings.maxActionDepth := Nat.not_lt.mp hd
  cases ha : h.services.action? (Text.strip name) with
  | none =>
    rw [actionAt_undefined fuel hd ha]
    exact climbs_calls nofun
  | some definition =>
    rw [actionAt_followed fuel hd ha]
    refine climbs_bind (climbs_followed _ hle) fun _ => ?_
    cases definition with
    | method controller method =>
      exact climbs_bind (climbs_calls (h.call_asks _ _).event) fun _ => climbs_calls nofun
    | group actions =>
      let C := climbingCrossing h.services.settings.maxActionDepth 0
      have hs : ∀ name, C.evals.rel (h.actionAt fuel name (depth + 1))
          (h.actionAt fuel name (depth + 1)) := fun name => hc.action name (depth + 1)
      exact runGroup_related C hs _ []
    | expression text => exact climbs_entry (hc.evaluate text depth) hle 0

theorem search_climbs (hc : h.ClimbsWith fuel) (model filter : String) (params : Table Value)
    (depth : Nat) :
    Climbs h.services.settings.maxActionDepth (depth + 1)
      (h.searchAt (fuel + 1) model filter params depth).events := by
  simp only [searchAt]
  exact climbs_bind (script_climbs hc _ depth) fun found =>
    climbs_calls (h.fetchDescribed_asks _ _ found).event

end

theorem climbsWith (h : Handler) (fuel : Nat) : h.ClimbsWith fuel := by
  induction fuel with
  | zero => exact ⟨fun _ _ => climbs_calls nofun, fun _ _ => climbs_calls nofun,
      fun _ _ _ _ => climbs_calls nofun⟩
  | succ fuel ih => exact ⟨evaluate_climbs ih, action_climbs ih, search_climbs ih⟩

/-- In the evaluation of an expression, references are followed within the limit, and the first one
beyond it ends the run as its failure. An evaluation beyond the limit is that of a script one level
above it; where no script runs at the limit itself, all evaluations are within the limit. -/
theorem nested_evaluations_bounded (h : Handler) (fuel : Nat) (text : String) :
    (∀ name depth, .followed name depth ∈ (h.evaluate fuel text).events →
      depth ≤ h.services.settings.maxActionDepth) ∧
    (∀ name depth, .refused name depth ∈ (h.evaluate fuel text).events →
      h.services.settings.maxActionDepth < depth ∧
        (h.evaluate fuel text).outcome = .failed (.cyclicAction name depth)) ∧
    (∀ before e depth after,
      (h.evaluate fuel text).events = before ++ .dispatched e (depth + 1) :: after →
      h.services.settings.maxActionDepth ≤ depth →
      ∃ script : Expression, script.isScript = true ∧ .dispatched script depth ∈ before) ∧
    ((h.evaluate fuel text).events.any
        (Event.isScriptAt h.services.settings.maxActionDepth) = false →
      (h.evaluate fuel text).events.any
        (Event.isBeyond h.services.settings.maxActionDepth) = false) := by
  have hc := (h.climbsWith fuel).evaluate text 0
  refine ⟨hc.followed, fun name depth hm => ?_, fun before e depth after hs hd => ?_,
    climbs_within hc⟩
  · have hend := h.evaluate_refused fuel text hm
    exact ⟨hend.beyond, hend.outcome⟩
  · rcases hc.dispatched before e depth after hs hd with hz | hscript
    · omega
    · exact hscript

theorem nested_evaluations_bounded_within :
    ((ofActions 5 nestedReferences).evaluate 9 "action: all").events.any (Event.isScriptAt 5) =
      false ∧
      ((ofActions 5 nestedReferences).evaluate 9 "action: all").events.any (Event.isBeyond 5) =
        false := by
  have hs : ((ofActions 5 nestedReferences).evaluate 9 "action: all").events.any
      (Event.isScriptAt 5) = false := by
    decide +kernel
  obtain ⟨-, -, -, hwithin⟩ :=
    nested_evaluations_bounded (ofActions 5 nestedReferences) 9 "action: all"
  exact ⟨hs, hwithin hs⟩

/-- With a limit of one level, a script evaluates an expression two levels below it. -/
theorem script_beyond_limit :
    ((ofActions 1 []).evaluate 9
        "eval: __me__.evaluate(\"eval: __me__.evaluate('deep')\")").events.any
      (Event.isBeyond 1) = true ∧
    ((ofActions 1 []).evaluate 9
        "eval: __me__.evaluate(\"eval: __me__.evaluate('deep')\")").outcome.isAnswer = true := by
  decide +kernel

end Handler

end ActionDispatch
